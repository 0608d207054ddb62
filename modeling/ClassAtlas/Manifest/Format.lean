import ClassAtlas.Declaration
import ClassAtlas.Manifest.Reader

/-! # The manifest format

    A manifest names a source file and lists its declarations:

    - a manifest has `source` and `declarations`;
    - a declaration has `kind`, `name`, `scopes`, `members` and `base_types`;
    - a member has `kind`, `name`, `public` and `type`;
    - a scope has `kind` and `name`.

    Lists and `public` may be left out, and are then empty or false.
-/

namespace ClassAtlas.Manifest

/-- A field that a draft has, or else the name of what it lacks. -/
def need {α : Type} (name : String) : Option α → Except String α
  | some a => .ok a
  | none => .error name

/-- A text inside a record. -/
def plainText : Reader String := .text "a string"

/-! ## Scopes -/

structure ScopeDraft where
  kind? : Option ScopeKind := none
  name? : Option String := none

def scopeKinds : List (String × ScopeKind) :=
  [ScopeKind.ofNamespace, .ofType].map fun k => (k.keyword, k)

def scopeFormat : RecordFormat ScopeDraft Scope where
  title := "struct ScopeEntry"
  blank := {}
  fields :=
    [{ name := "kind", isRequired := true, isSeen := (·.kind?.isSome),
       reader := (Reader.choice scopeKinds).map fun k draft => { draft with kind? := some k } },
     { name := "name", isRequired := true, isSeen := (·.name?.isSome),
       reader := plainText.map fun s draft => { draft with name? := some s } }]
  build draft := do
    let kind ← need "kind" draft.kind?
    let name ← need "name" draft.name?
    return { kind, name }

/-! ## Members -/

structure MemberDraft where
  kind? : Option MemberKind := none
  name? : Option String := none
  public? : Option Bool := none
  type? : Option String := none

def memberKinds : List (String × MemberKind) :=
  [MemberKind.field, .property, .method].map fun k => (k.keyword, k)

def memberFormat : RecordFormat MemberDraft Member where
  title := "struct MemberEntry"
  blank := {}
  fields :=
    [{ name := "kind", isRequired := true, isSeen := (·.kind?.isSome),
       reader := (Reader.choice memberKinds).map fun k draft => { draft with kind? := some k } },
     { name := "name", isRequired := true, isSeen := (·.name?.isSome),
       reader := plainText.map fun s draft => { draft with name? := some s } },
     { name := "public", isRequired := false, isSeen := (·.public?.isSome),
       reader := Reader.bool.map fun b draft => { draft with public? := some b } },
     { name := "type", isRequired := true, isSeen := (·.type?.isSome),
       reader := plainText.map fun s draft => { draft with type? := some s } }]
  build draft := do
    let kind ← need "kind" draft.kind?
    let name ← need "name" draft.name?
    let type ← need "type" draft.type?
    return { kind, name, type, isPublic := draft.public?.getD false }

/-! ## Declarations -/

structure DeclarationDraft where
  kind? : Option DeclarationKind := none
  name? : Option String := none
  scopes? : Option (List Scope) := none
  members? : Option (List Member) := none
  bases? : Option (List String) := none

def declarationKinds : List (String × DeclarationKind) :=
  [DeclarationKind.classType, .interfaceType].map fun k => (k.keyword, k)

def declarationFormat : RecordFormat DeclarationDraft Declaration where
  title := "struct DeclarationEntry"
  blank := {}
  fields :=
    [{ name := "kind", isRequired := true, isSeen := (·.kind?.isSome),
       reader := (Reader.choice declarationKinds).map fun k draft =>
        { draft with kind? := some k } },
     { name := "name", isRequired := true, isSeen := (·.name?.isSome),
       reader := plainText.map fun s draft => { draft with name? := some s } },
     { name := "scopes", isRequired := false, isSeen := (·.scopes?.isSome),
       reader := scopeFormat.reader.list.map fun l draft => { draft with scopes? := some l } },
     { name := "members", isRequired := false, isSeen := (·.members?.isSome),
       reader := memberFormat.reader.list.map fun l draft => { draft with members? := some l } },
     { name := "base_types", isRequired := false, isSeen := (·.bases?.isSome),
       reader := plainText.list.map fun l draft => { draft with bases? := some l } }]
  build draft := do
    let kind ← need "kind" draft.kind?
    let name ← need "name" draft.name?
    return {
      kind, name
      scopes := draft.scopes?.getD []
      members := draft.members?.getD []
      bases := draft.bases?.getD [] }

/-! ## Manifests -/

/-- What a manifest says. -/
structure Contents where
  source : String
  declarations : List Declaration

structure Draft where
  source? : Option String := none
  declarations? : Option (List Declaration) := none

def format : RecordFormat Draft Contents where
  title := "struct ManifestFile"
  blank := {}
  fields :=
    [{ name := "source", isRequired := true, isSeen := (·.source?.isSome),
       reader := (Reader.text "path string").map fun s draft => { draft with source? := some s } },
     { name := "declarations", isRequired := false, isSeen := (·.declarations?.isSome),
       reader := declarationFormat.reader.list.map fun l draft =>
        { draft with declarations? := some l } }]
  build draft := do
    let source ← need "source" draft.source?
    return { source, declarations := draft.declarations?.getD [] }

/-! ## Whole texts -/

/-- What the manifest in a text says; after it only blanks may follow. -/
def read (contents : String) : Except Fault Contents :=
  match format.reader.run (Tape.ofText contents) with
  | .error fault => .error fault
  | .ok (manifest, .finish _) => .ok manifest
  | .ok (_, rest) => fail .trailingCharacters rest.peeked

/-- The source file of a manifest: a relative one is found from the directory
    of the manifest. -/
def sourcePath (manifestPath : Path) (source : String) : Path :=
  (manifestPath.parent?.getD .empty).join (.ofString source)

/-- The entities of the manifest in a text that stands at a path. -/
def parse (manifestPath : Path) (contents : String) : Except Fault (List Entity) := do
  let manifest ← read contents
  let source := sourcePath manifestPath manifest.source
  return manifest.declarations.map fun d => { d with source }

end ClassAtlas.Manifest

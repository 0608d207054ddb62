import ClassAtlas.Proofs.Document.Blocks
import ClassAtlas.Proofs.Manifest.Delimiting
import ClassAtlas.Proofs.Path.Beside
import ClassAtlas.Proofs.Path.Links
import ClassAtlas.Proofs.Report.Silence
import ClassAtlas.Proofs.Text.Utf8

/-! # Manifests under other spellings of their paths

    A manifest is the same file whether its path is absolute or relative, goes
    through `.` or repeats slashes.  The source that it names is found from its
    path, so each spelling gives entities of its own; but the links to the source
    are equal, and links are all that a document shows of it.

    One kind of spelling goes wrong: `.` for the path of the current directory.
    It has no name of a file to climb from, so that a source is looked for in the
    directory and not beside it.  `Manifest.generate_of_respelled` says when the
    documents are equal, and `Manifest.not_forall_generate_of_respelled` that they
    need not be.
-/

namespace ClassAtlas

/-- A declaration looks the same in files of one link. -/
theorem Entity.alike_of_ofPath_eq {cwd source source' : Path}
    (h : Uri.ofPath cwd source' = Uri.ofPath cwd source) (d : Declaration) :
    Entity.Alike cwd { d with source } { d with source := source' } := by
  refine { Alike.refl cwd { d with source } with outline := ?_ }
  simp only [outline, h]
  rfl

namespace Manifest

theorem sourcePath_eq_beside (path : Path) (source : String) :
    sourcePath path source = path.beside (.ofString source) := rfl

theorem ofString_ne_empty {s : String} (h : s ≠ "") : Path.ofString s ≠ .empty := by
  intro hempty
  have hbytes : Utf8.encode s = Utf8.encode "" := congrArg Path.bytes hempty
  exact h (Utf8.encode_injective hbytes)

theorem sourcePath_ne_empty {path : Path} {source : String} (h : source ≠ "") :
    sourcePath path source ≠ .empty := Path.beside_ne_empty (ofString_ne_empty h)

theorem sourcePath_of_isAbsolute {source : String} (h : (Path.ofString source).isAbsolute)
    (path : Path) : sourcePath path source = .ofString source := by
  rw [sourcePath_eq_beside, Path.beside, Path.join, if_pos h]

/-! ## The link that a document shows -/

section

variable {cwd source source' : Path} {ds : List Declaration}

/-- Declarations make one document in all files of one link. -/
theorem generate_eq_of_ofPath_eq (h : Uri.ofPath cwd source' = Uri.ofPath cwd source) :
    generate cwd (inFile source' ds) = generate cwd (inFile source ds) := by
  apply Report.document_of_alike
  rw [inFile, inFile, List.forall₂_map_left_iff, List.forall₂_map_right_iff, List.forall₂_same]
  exact fun d _ => Entity.alike_of_ofPath_eq h d

/-- A document of declarations shows the link to their file, after a front that is
    the same for all files. -/
theorem ofPath_eq_of_generate_eq (hds : ds ≠ [])
    (h : generate cwd (inFile source' ds) = generate cwd (inFile source ds)) :
    Uri.ofPath cwd source' = Uri.ofPath cwd source := by
  obtain ⟨front, hfront⟩ := Report.exists_document_eq_link hds cwd {}
  obtain ⟨back, hback⟩ := hfront source
  obtain ⟨back', hback'⟩ := hfront source'
  have hchars : front.toList ++ ((Uri.ofPath cwd source').toList ++ ']' :: ']' :: back'.toList)
      = front.toList ++ ((Uri.ofPath cwd source).toList ++ ']' :: ']' :: back.toList) := by
    have hdocuments := congrArg String.toList h
    rw [generate, generate, hback, hback'] at hdocuments
    simpa using hdocuments
  -- a bracket closes the link, and there is none inside
  have htaken := congrArg (List.takeWhile (· != ']')) (List.append_cancel_left hchars)
  rw [Uri.takeWhile_ofPath_append, Uri.takeWhile_ofPath_append] at htaken
  exact String.toList_inj.1 htaken

end

/-! ## Two spellings -/

section

variable {cwd p q : Path} (hcwd : cwd.Settled) (hp : p.fileName?.isSome)
  (h : Path.absolute cwd q = Path.absolute cwd p) {source : String} (hsource : source ≠ "")

include hcwd hp h hsource

theorem ofPath_sourcePath_eq (hq : q.steps ≠ []) :
    Uri.ofPath cwd (sourcePath q source) = Uri.ofPath cwd (sourcePath p source) := by
  rw [Uri.ofPath, Uri.ofPath, sourcePath_eq_beside, sourcePath_eq_beside,
    Path.absolute_beside hcwd (Path.steps_ne_nil_of_fileName? hp) hq h (ofString_ne_empty hsource)]

theorem ofPath_sourcePath_ne (hq : q.steps = []) (hrel : (Path.ofString source).isAbsolute = false) :
    Uri.ofPath cwd (sourcePath q source) ≠ Uri.ofPath cwd (sourcePath p source) := by
  intro hlinks
  rw [Uri.ofPath_inj hcwd.isAbsolute (sourcePath_ne_empty hsource) (sourcePath_ne_empty hsource)]
    at hlinks
  exact Path.absolute_beside_ne hcwd (Path.steps_ne_nil_of_fileName? hp) hq h hrel
    (ofString_ne_empty hsource) (congrArg Path.mk hlinks)

/-- Two spellings of a path make one document, unless one lacks the name of the file,
    the source is to be found from it and there is something to show. -/
theorem generate_sourcePath_eq_iff (ds : List Declaration) :
    generate cwd (inFile (sourcePath q source) ds) = generate cwd (inFile (sourcePath p source) ds)
      ↔ q.fileName?.isSome ∨ (Path.ofString source).isAbsolute ∨ ds = [] := by
  constructor
  · intro hdocument
    by_contra hnone
    simp only [not_or, Path.isSome_fileName?_iff hcwd hp h, not_ne_iff, Bool.not_eq_true] at hnone
    obtain ⟨hq, hrel, hds⟩ := hnone
    exact ofPath_sourcePath_ne hcwd hp h hsource hq hrel (ofPath_eq_of_generate_eq hds hdocument)
  · rintro (hname | habs | rfl)
    · have hq := Path.steps_ne_nil_of_fileName? hname
      exact generate_eq_of_ofPath_eq (ofPath_sourcePath_eq hcwd hp h hsource hq)
    · rw [sourcePath_of_isAbsolute habs, sourcePath_of_isAbsolute habs]
    · rfl

end

/-- A manifest that names a source makes the same document under every spelling of
    its path that has the name of the file in it, the absolute form among them, and
    seen from the top directory every spelling has it.  One that lacks the name makes
    the same document just if the source is an absolute path or nothing is declared. -/
theorem generate_of_respelled {cwd p : Path} (hcwd : cwd.Settled) (hp : p.fileName?.isSome)
    {text : String} {c : Contents} (hread : read text = .ok c) (hsource : c.source ≠ "") :
    ∃ es, load p text = .ok es
      ∧ (∀ q, Path.absolute cwd q = Path.absolute cwd p →
          (∃ ds, load q text = .ok ds
            ∧ (generate cwd ds = generate cwd es
              ↔ q.fileName?.isSome ∨ (Path.ofString c.source).isAbsolute ∨ c.declarations = []))
          ∧ (cwd = .top → q.fileName?.isSome))
      ∧ ∃ ds, load (Path.absolute cwd p) text = .ok ds ∧ generate cwd ds = generate cwd es := by
  have hsteps := Path.steps_ne_nil_of_fileName? hp
  refine ⟨_, load_of_read hread p, fun q hsame => ⟨?_, ?_⟩, ?_⟩
  · exact ⟨_, load_of_read hread q, generate_sourcePath_eq_iff hcwd hp hsame hsource _⟩
  · -- the top directory has no step that dots could stand for
    rintro rfl
    rw [Path.isSome_fileName?_iff hcwd hp hsame]
    intro hnil
    exact hsteps (Path.steps_eq_of_absolute_eq hcwd hsteps hsame hnil).2.2
  · have hsame := Path.absolute_absolute hcwd p
    have hname : (Path.absolute cwd p).fileName?.isSome := by
      rw [Path.isSome_fileName?_iff hcwd hp hsame,
        Path.steps_absolute hcwd (Path.ne_empty_of_steps hsteps), Path.stepsFrom]
      exact List.append_ne_nil_of_right_ne_nil _ hsteps
    exact ⟨_, load_of_read hread _,
      (generate_sourcePath_eq_iff hcwd hp hsame hsource _).2 (.inl hname)⟩

/-- A relative path through dots and double slashes, and the same in full. -/
theorem generate_of_respelled_dotted :
    let cwd : Path := .ofString "/work"
    let p : Path := .ofString "./shop//./../a.decl.json"
    let q : Path := .ofString "/work/./shop/../a.decl.json"
    let text := Style.numeric.print classManifest
    cwd.Settled ∧ p.fileName?.isSome ∧ q.fileName?.isSome
      ∧ Path.absolute cwd q = Path.absolute cwd p
      ∧ read text = .ok ⟨"a.cs", [{ kind := .classType, name := "A" }]⟩
      ∧ load p text
          = .ok [{ kind := .classType, name := "A", source := .ofString "./shop//./../a.cs" }]
      ∧ load q text
          = .ok [{ kind := .classType, name := "A", source := .ofString "/work/./shop/../a.cs" }]
      ∧ generate cwd [{ kind := .classType, name := "A", source := .ofString "/work/./shop/../a.cs" }]
        = generate cwd
            [{ kind := .classType, name := "A", source := .ofString "./shop//./../a.cs" }] := by
  intro cwd p q text
  have hcwd : cwd.Settled := by decide +kernel
  have hp : p.fileName?.isSome := by decide +kernel
  have hq : q.fileName?.isSome := by decide +kernel
  have hsame : Path.absolute cwd q = Path.absolute cwd p := by decide +kernel
  have hread : read text = .ok ⟨"a.cs", [{ kind := .classType, name := "A" }]⟩ :=
    read_of_decode (Style.numeric.spelledAs_print _) rfl
  have hloadP : load p text
      = .ok [{ kind := .classType, name := "A", source := .ofString "./shop//./../a.cs" }] :=
    (load_of_read hread p).trans (congrArg Except.ok (by decide +kernel))
  have hloadQ : load q text
      = .ok [{ kind := .classType, name := "A", source := .ofString "/work/./shop/../a.cs" }] :=
    (load_of_read hread q).trans (congrArg Except.ok (by decide +kernel))
  obtain ⟨es, hes, hspelled, -⟩ := generate_of_respelled hcwd hp hread (by decide)
  obtain ⟨⟨ds, hds, hdocument⟩, -⟩ := hspelled q hsame
  rw [hloadP] at hes
  rw [hloadQ] at hds
  cases hes
  cases hds
  exact ⟨hcwd, hp, hq, hsame, hread, hloadP, hloadQ, hdocument.2 (.inl hq)⟩

/-- Read from `/work`, a manifest at `/work` and one at `.` have paths of one absolute
    form; the link of the one is `file:///a.cs` and that of the other
    `file:///work/a.cs`. -/
theorem not_forall_generate_of_respelled :
    ¬ ∀ (cwd p q : Path) (text : String) (c : Contents), cwd.Settled → p.fileName?.isSome →
        read text = .ok c → c.source ≠ "" → Path.absolute cwd q = Path.absolute cwd p →
        ∃ es ds, load p text = .ok es ∧ load q text = .ok ds ∧ generate cwd ds = generate cwd es := by
  intro hall
  let work : Path := .ofString "/work"
  let dot : Path := .ofString "."
  have hwork : work.Settled := by decide +kernel
  have hname : work.fileName?.isSome := by decide +kernel
  have hsame : Path.absolute work dot = Path.absolute work work := by decide +kernel
  have hread : read (Style.numeric.print classManifest)
      = .ok ⟨"a.cs", [{ kind := .classType, name := "A" }]⟩ :=
    read_of_decode (Style.numeric.spelledAs_print _) rfl
  obtain ⟨es, ds, hes, hds, hdocument⟩ :=
    hall work work dot _ _ hwork hname hread (by decide) hsame
  rw [load_of_read hread] at hes hds
  cases hes
  cases hds
  have hdot := (generate_sourcePath_eq_iff hwork hname hsame (by decide) _).1 hdocument
  -- the dot has no name, the source is relative and a class is declared
  exact absurd hdot (by decide +kernel)

end Manifest

end ClassAtlas

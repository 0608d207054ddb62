import ClassAtlas.Proofs.Document.Outline
import ClassAtlas.Proofs.NamespaceIndex.Grouping
import ClassAtlas.Proofs.Path.Uri

/-! # Reading documents back

    From the lines of a document its outline is found, whatever the names in it
    hold.  The proof goes up the levels of the document: one line, the members
    of an entity, the entities of a package, the packages.  At every level the
    lines that may follow start differently from the line that closes it.
-/

namespace ClassAtlas

namespace Outline

/-! ## Lines -/

theorem packageName?_head (name : String) :
    packageName? ("package " ++ name ++ " \x7b") = some name := by
  have hline : ("package " ++ name ++ " \x7b").toList
      = "package ".toList ++ (name.toList ++ " \x7b".toList) := by
    simp only [String.toList_append, List.append_assoc]
  simp only [packageName?, hline, List.isPrefixOf?_eq_some_iff_append_eq.2 rfl,
    List.isSuffixOf?_eq_some_iff_append_eq.2 rfl, bind, Option.bind, pure, String.ofList_toList]

theorem dropKeyword?_keyword (kind : DeclarationKind) (rest : List Char) :
    dropKeyword? ((kind.keyword ++ " ").toList ++ rest) = some (kind, rest) := by
  cases kind with
  | classType =>
    rw [dropKeyword?, List.findSome?_cons, List.isPrefixOf?_eq_some_iff_append_eq.2 rfl]
    rfl
  | interfaceType =>
    have hclass : (DeclarationKind.classType.keyword ++ " ").toList.isPrefixOf?
        ((DeclarationKind.interfaceType.keyword ++ " ").toList ++ rest) = none := rfl
    rw [dropKeyword?, List.findSome?_cons, hclass, Option.map_none, List.findSome?_cons,
      List.isPrefixOf?_eq_some_iff_append_eq.2 rfl]
    rfl

/-- The part of a list after the last place of `a`, seen from the end. -/
theorem takeWhile_reverse_append {a : Char} {back : List Char} (h : a ∉ back)
    (front : List Char) :
    (front ++ a :: back).reverse.takeWhile (· != a) = back.reverse
      ∧ (front ++ a :: back).reverse.dropWhile (· != a) = (front ++ [a]).reverse := by
  have hback : ∀ c ∈ back.reverse, (c != a) = true := by
    intro c hc
    refine bne_iff_ne.2 fun heq => h ?_
    rw [← heq]
    exact List.mem_reverse.1 hc
  have hsplit : (front ++ a :: back).reverse = back.reverse ++ a :: front.reverse := by simp
  -- seen from the end, nothing before the last place of the character stops the search
  rw [hsplit, List.takeWhile_append_of_pos hback, List.dropWhile_append_of_pos hback]
  simp

theorem entityHead?_head (cwd : Path) (e : Entity) :
    entityHead? (Document.entityHead cwd e ++ " \x7b")
      = some (e.kind, e.name, Uri.ofPath cwd e.source) := by
  let link := Uri.ofPath cwd e.source
  have hlink : '[' ∉ link.toList := Uri.not_mem_ofPath (by decide) (by decide)
  have hline : (Document.entityHead cwd e ++ " \x7b").toList
      = (e.kind.keyword ++ " ").toList
        ++ ((e.name.toList ++ " <<Clickable>> [".toList ++ '[' :: link.toList)
          ++ "]] \x7b".toList) := by
    simp [Document.entityHead, link]
  have hfront : e.name.toList ++ " <<Clickable>> [".toList ++ ['[']
      = e.name.toList ++ " <<Clickable>> [[".toList := by
    simp
  -- the name may hold brackets too, but the link has none
  obtain ⟨htake, hdrop⟩ :=
    takeWhile_reverse_append hlink (e.name.toList ++ " <<Clickable>> [".toList)
  simp only [entityHead?, hline, dropKeyword?_keyword,
    List.isSuffixOf?_eq_some_iff_append_eq.2 rfl, htake, hdrop, List.reverse_reverse, hfront,
    bind, Option.bind, pure, String.ofList_toList]
  rfl

theorem isIndented_indented (line : String) : isIndented (Document.indented line) := by
  rw [isIndented, Document.indented, String.toList_append, List.isPrefixOf_iff_prefix]
  exact List.prefix_append _ _

theorem isIndented_of_mem_memberLines {e : Entity} {line : String}
    (h : line ∈ Document.memberLines e) : isIndented line := by
  unfold Document.memberLines at h
  split at h
  · obtain ⟨m, _, rfl⟩ := List.mem_map.1 h
    exact isIndented_indented _
  · obtain ⟨text, _, rfl⟩ := List.mem_map.1 h
    exact isIndented_indented _

/-! ## Entities -/

theorem readMembers_append {members : List String} (h : ∀ line ∈ members, isIndented line)
    (rest : List String) :
    readMembers (members ++ "\x7d" :: "" :: rest) = (readEntities rest).map (members, ·) := by
  induction members with
  | nil =>
    rw [List.nil_append, readMembers, if_pos rfl, if_pos rfl]
  | cons line members ih =>
    have hline : isIndented line := h line List.mem_cons_self
    have hne : line ≠ "\x7d" := by
      rintro rfl
      exact absurd hline (by decide)
    have hrest := ih fun l hl => h l (List.mem_cons_of_mem _ hl)
    -- a member is never the last line but one
    obtain ⟨next, more, heq⟩ : ∃ next more, members ++ "\x7d" :: "" :: rest = next :: more :=
      List.exists_cons_of_ne_nil (by simp)
    rw [List.cons_append, heq, readMembers, if_neg hne, if_pos hline, ← heq, hrest]
    cases readEntities rest <;> rfl

theorem entityHead_ne_close (cwd : Path) (e : Entity) :
    Document.entityHead cwd e ++ " \x7b" ≠ "\x7d" := by
  intro h
  have hread := entityHead?_head cwd e
  have hnone : entityHead? "\x7d" = none := by decide
  rw [h, hnone] at hread
  cases hread

theorem readEntities_entityLines (cwd : Path) (e : Entity) (rest : List String) :
    readEntities (Document.entityLines cwd e ++ rest)
      = (readEntities rest).map fun (es, after) => ((e.kind, e.outline cwd) :: es, after) := by
  have hlines : Document.entityLines cwd e ++ rest
      = (Document.entityHead cwd e ++ " \x7b")
        :: (Document.memberLines e ++ "\x7d" :: "" :: rest) := by
    simp [Document.entityLines, Document.braced]
  -- the head is read first, so its line must not look like the end of the package
  rw [hlines, readEntities, if_neg (entityHead_ne_close cwd e), entityHead?_head,
    readMembers_append fun _ => isIndented_of_mem_memberLines]
  cases readEntities rest <;> rfl

/-- The entities of a package with their kinds. -/
def entitiesOf (cwd : Path) (es : List Entity) : List (DeclarationKind × EntityOutline) :=
  es.map fun e => (e.kind, e.outline cwd)

theorem readEntities_append (cwd : Path) (es : List Entity) (rest : List String) :
    readEntities (es.flatMap (Document.entityLines cwd) ++ "\x7d" :: rest)
      = (readPackages rest).map (entitiesOf cwd es, ·) := by
  induction es with
  | nil =>
    rw [List.flatMap_nil, List.nil_append, readEntities, if_pos rfl]
    rfl
  | cons e es ih =>
    rw [List.flatMap_cons, List.append_assoc, readEntities_entityLines, ih]
    cases readPackages rest <;> rfl

/-! ## Packages -/

theorem ofKind_entitiesOf_self {kind : DeclarationKind} {es : List Entity}
    (h : ∀ e ∈ es, e.kind = kind) (cwd : Path) :
    ofKind kind (entitiesOf cwd es) = es.map (·.outline cwd) := by
  rw [ofKind, entitiesOf, List.filterMap_map, ← List.filterMap_eq_map]
  refine List.filterMap_congr fun e he => ?_
  simp [h e he]

theorem ofKind_entitiesOf_ne {kind : DeclarationKind} {es : List Entity}
    (h : ∀ e ∈ es, e.kind ≠ kind) (cwd : Path) : ofKind kind (entitiesOf cwd es) = [] := by
  rw [ofKind, entitiesOf, List.filterMap_map, List.filterMap_eq_nil_iff]
  intro e he
  simp [h e he]

theorem readPackages_packageLines (cwd : Path) {p : Package} (hp : p.WellKinded)
    (rest : List String) :
    readPackages (Document.packageLines cwd p ++ rest)
      = (readPackages rest).map fun after =>
          { after with packages := p.outline cwd :: after.packages } := by
  have hlines : Document.packageLines cwd p ++ rest
      = ("package " ++ p.name ++ " \x7b")
        :: ((p.interfaces ++ p.classes).flatMap (Document.entityLines cwd) ++ "\x7d" :: rest) := by
    simp [Document.packageLines, Document.braced]
  have hne : "package " ++ p.name ++ " \x7b" ≠ "" := by
    intro h
    have hlength := congrArg String.length h
    simp at hlength
  -- the kinds tell the two lists apart again
  have hentities : entitiesOf cwd (p.interfaces ++ p.classes)
      = entitiesOf cwd p.interfaces ++ entitiesOf cwd p.classes := List.map_append
  have hinterfaces : ofKind .interfaceType (entitiesOf cwd (p.interfaces ++ p.classes))
      = p.interfaces.map (·.outline cwd) := by
    rw [hentities, ofKind, List.filterMap_append, ← ofKind, ← ofKind,
      ofKind_entitiesOf_self hp.interfaces,
      ofKind_entitiesOf_ne fun e he => by rw [hp.classes e he]; decide, List.append_nil]
  have hclasses : ofKind .classType (entitiesOf cwd (p.interfaces ++ p.classes))
      = p.classes.map (·.outline cwd) := by
    rw [hentities, ofKind, List.filterMap_append, ← ofKind, ← ofKind,
      ofKind_entitiesOf_ne fun e he => by rw [hp.interfaces e he]; decide,
      ofKind_entitiesOf_self hp.classes, List.nil_append]
  rw [hlines, readPackages, if_neg hne, packageName?_head, readEntities_append]
  cases readPackages rest with
  | none => rfl
  | some after =>
    simp only [Option.map_some, bind, Option.bind, pure, hinterfaces, hclasses]
    rfl

theorem readPackages_append (cwd : Path) {ps : List Package} (h : ∀ p ∈ ps, p.WellKinded)
    (rest : List String) :
    readPackages (ps.flatMap (Document.packageLines cwd) ++ rest)
      = (readPackages rest).map fun after =>
          { after with packages := ps.map (·.outline cwd) ++ after.packages } := by
  induction ps with
  | nil =>
    rw [List.flatMap_nil, List.nil_append]
    cases readPackages rest <;> rfl
  | cons p ps ih =>
    rw [List.flatMap_cons, List.append_assoc,
      readPackages_packageLines cwd (h p List.mem_cons_self),
      ih fun q hq => h q (List.mem_cons_of_mem _ hq)]
    cases readPackages rest <;> rfl

/-! ## Arrows and the whole -/

theorem readArrows_append (arrows : List String) :
    readArrows (arrows ++ [Document.closing]) = some arrows := by
  induction arrows with
  | nil => rw [List.nil_append, readArrows, if_pos rfl]
  | cons line arrows ih =>
    obtain ⟨next, more, heq⟩ :
        ∃ next more, arrows ++ [Document.closing] = next :: more :=
      List.exists_cons_of_ne_nil (by simp)
    rw [heq] at ih
    rw [List.cons_append, heq, readArrows, ih, Option.map_some]
    exact nofun

theorem readPackages_relationshipLines (set : RelationshipSet) :
    readPackages (Document.relationshipLines set) = some { packages := [], arrows := set.lines } := by
  rw [Document.relationshipLines, List.cons_append, readPackages, if_pos rfl, List.cons_append,
    readRelationships, if_pos rfl, readArrows_append]
  rfl

/-- The lines of a document give its outline back. -/
theorem readLines?_lines (cwd : Path) {index : NamespaceIndex}
    (h : ∀ p ∈ index.packages, p.WellKinded) (set : RelationshipSet) :
    readLines? (Document.lines cwd index set) = some (ofDocument cwd index set) := by
  rw [readLines?, Document.lines, List.append_assoc,
    List.isPrefixOf?_eq_some_iff_append_eq.2 rfl]
  simp only [bind, Option.bind]
  rw [readPackages_append cwd h, readPackages_relationshipLines, Option.map_some, List.append_nil]
  rfl

end Outline

end ClassAtlas

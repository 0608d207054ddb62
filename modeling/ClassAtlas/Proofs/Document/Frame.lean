import ClassAtlas.Proofs.Document.ReadBack
import ClassAtlas.Proofs.Generation.Loading

/-! # The frame of a document

    Every document opens and closes with the same lines, whatever was in the
    manifests.  As long as no name breaks a line, the lines of the frame stand
    nowhere else, and between the heading of the relationships and the end there
    is one line for every arrow (`Report.document_framed`).

    Names are written as they are.  A name with a line feed can therefore end a
    document in its middle (`Report.not_forall_closing_once`).
-/

namespace ClassAtlas

namespace Document

theorem ofText_preamble : Lines.ofText (ofLines preamble) = preamble :=
  Lines.ofText_ofLines oneLine_preamble

/-- The lines of a document are the opening, what the packages and arrows make of
    theirs, and the end. -/
theorem ofText_render (cwd : Path) (index : NamespaceIndex) (set : RelationshipSet) :
    Lines.ofText (render cwd index set)
      = preamble ++ Lines.ofText (ofLines (index.packages.flatMap (packageLines cwd)))
        ++ ["", relationshipsHeading] ++ Lines.ofText (ofLines set.lines) ++ [closing] := by
  have hheading : Lines.ofText (ofLines ["", relationshipsHeading]) = ["", relationshipsHeading] :=
    Lines.ofText_ofLines (by decide)
  have hclosing : Lines.ofText (ofLines [closing]) = [closing] :=
    Lines.ofText_ofLines (by decide)
  have hlines : lines cwd index set
      = preamble ++ index.packages.flatMap (packageLines cwd) ++ ["", relationshipsHeading]
        ++ set.lines ++ [closing] := by
    simp [lines, relationshipLines]
  rw [render, hlines]
  simp only [Lines.ofText_ofLines_append, ofText_preamble, hheading, hclosing]

end Document

open Document

namespace Report

/-- Whatever manifests the entities come from, the first line of their document
    opens it and the last one closes it.  If no name breaks a line, then the
    opening, the heading of the relationships and the closing stand there once
    each, and after the heading there is a line for every arrow, then the end. -/
theorem document_framed (cwd : Path) (types : BuiltInTypes) (es : List Entity) :
    let report := ofEntities cwd types es
    let lines := Lines.ofText report.document
    lines.head? = some "@startuml" ∧ lines.getLast? = some "@enduml"
      ∧ ((∀ e ∈ es, e.OneLined) →
          lines.count "@startuml" = 1 ∧ lines.count "@enduml" = 1
            ∧ lines.count "' Relationships" = 1
            ∧ ∃ front arrows, lines = front ++ "' Relationships" :: arrows ++ ["@enduml"]
              ∧ arrows.length = report.relationships.size) := by
  intro report lines
  have hdocument : report.document = render cwd report.index report.relationships := by
    simp only [report, ofEntities]
  have hlines : lines = preamble
      ++ Lines.ofText (ofLines (report.index.packages.flatMap (packageLines cwd)))
      ++ ["", relationshipsHeading] ++ Lines.ofText (ofLines report.relationships.lines)
      ++ [closing] := by
    simp only [lines, hdocument, ofText_render]
  refine ⟨?_, ?_, ?_⟩
  · rw [hlines, preamble]
    rfl
  · rw [hlines, List.getLast?_append]
    rfl
  · intro honeLined
    -- every name is on one line, so the lines are those that were written
    have hwritten : lines = Document.lines cwd report.index report.relationships :=
      ofText_document cwd types honeLined
    have hcount : ∀ line ∈ frame, lines.count line = 1 := by
      intro line hline
      rw [hwritten]
      exact count_frame_line cwd types es hline
    have harrows : Lines.ofText (ofLines report.relationships.lines) = report.relationships.lines :=
      Lines.ofText_ofLines (oneLine_arrows honeLined honeLined)
    refine ⟨hcount _ (by decide), hcount _ (by decide), hcount _ (by decide), ?_⟩
    refine ⟨preamble ++ Lines.ofText (ofLines (report.index.packages.flatMap (packageLines cwd)))
      ++ [""], report.relationships.lines, ?_, ?_⟩
    · rw [hlines, harrows]
      simp [relationshipsHeading, closing]
    · exact List.length_map _

/-- A manifest of one class in a scope, with a base. -/
def manifestOfNamed (name scope base : String) : Manifest.Value :=
  .object
    [("source", .text "a.cs"),
     ("declarations", .list
       [.object
         [("kind", .text "class"), ("name", .text name),
          ("scopes", .list [.list [.text "namespace", .text scope]]),
          ("base_types", .list [.text base])]])]

/-- The class of the manifest, if that stands at a path. -/
def classNamed (path : Path) (name scope base : String) : Entity :=
  { kind := .classType, name, scopes := [⟨.ofNamespace, scope⟩], bases := [base],
    source := Manifest.sourcePath path "a.cs" }

/-- The names come out of the text as they went in, escaped or not. -/
theorem load_manifestOfNamed (style : Manifest.Style) (path : Path) (name scope base : String) :
    Manifest.load path (style.print (manifestOfNamed name scope base))
      = .ok [classNamed path name scope base] := by
  have hdecode : Manifest.decode (manifestOfNamed name scope base)
      = some ⟨"a.cs", [{ kind := .classType, name, scopes := [⟨.ofNamespace, scope⟩],
                         bases := [base] }]⟩ := rfl
  rw [Manifest.load_of_decode (style.spelledAs_print _) hdecode]
  rfl

theorem loadAll_manifestOfNamed (style : Manifest.Style) (path : Path) (name scope base : String) :
    Manifest.loadAll [(path, style.print (manifestOfNamed name scope base))]
      = .ok [classNamed path name scope base] := by
  rw [Manifest.loadAll, List.mapM_cons, load_manifestOfNamed]
  rfl

/-- Names that look like lines of the frame, every character of them escaped. -/
theorem document_framed_lookalikes :
    let manifest := manifestOfNamed "@enduml" "' Relationships" "@startuml"
    ∃ es, Manifest.loadAll [(.ofString "/a.decl.json", Manifest.Style.numeric.print manifest)]
        = .ok es
      ∧ (∀ e ∈ es, e.OneLined)
      ∧ (Lines.ofText (ofEntities .top {} es).document).count "@enduml" = 1
      ∧ (ofEntities .top {} es).relationships.lines = ["@enduml --|> @startuml"] := by
  intro manifest
  let path := Path.ofString "/a.decl.json"
  have honeLined : ∀ e ∈ [classNamed path "@enduml" "' Relationships" "@startuml"],
      e.OneLined := by
    decide
  refine ⟨_, loadAll_manifestOfNamed _ _ _ _ _, honeLined, ?_, by decide⟩
  exact ((document_framed .top {} _).2.2 honeLined).2.1

/-- A class whose name goes on after a line feed closes the document too early. -/
theorem not_forall_closing_once :
    ¬ ∀ (cwd : Path) (manifests : List (Path × String)) (es : List Entity),
        Manifest.loadAll manifests = .ok es →
        (Lines.ofText (generate cwd es)).count "@enduml" = 1 := by
  intro h
  let path := Path.ofString "/a.decl.json"
  let es := [classNamed path "A\n@enduml\nB" "N" "IA"]
  have hcount := h .top _ es (loadAll_manifestOfNamed .compact path "A\n@enduml\nB" "N" "IA")
  -- one closing line comes from the head of the class, one ends the document
  have hpackages : "@enduml" ∈ Lines.ofText
      (ofLines ((NamespaceIndex.ofList es).packages.flatMap (packageLines .top))) := by
    decide
  have hpositive := List.count_pos_iff.2 hpackages
  have hdocument : generate .top es
      = render .top (.ofList es) (RelationshipSet.infer {} es (.ofList es)) := by
    simp only [generate, ofEntities]
  have hclosing : [closing].count "@enduml" = 1 := by decide
  rw [hdocument, ofText_render] at hcount
  simp only [List.count_append, hclosing] at hcount
  omega

end Report

end ClassAtlas

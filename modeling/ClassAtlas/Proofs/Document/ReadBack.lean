import ClassAtlas.Proofs.Document.Reading
import ClassAtlas.Proofs.Relationship.Inference
import ClassAtlas.Report

/-! # Documents are unambiguous

    As long as no name breaks a line, the document of a run determines what the
    run shows, and conversely: two documents are equal just when the runs have
    the same namespaces, in each the same interfaces and classes, and the same
    arrows (`Report.document_eq_iff_shown`).  Names may hold anything else, also
    what looks like a piece of the document.
-/

namespace ClassAtlas

/-! ## Writing an outline -/

namespace Outline

/-- The first line of an entity and the lines between its braces. -/
def entityLines (kind : DeclarationKind) (o : EntityOutline) : List String :=
  Document.braced (kind.keyword ++ " " ++ o.name ++ " <<Clickable>> [[" ++ o.link ++ "]]") o.members
    ++ [""]

def packageLines (o : PackageOutline) : List String :=
  Document.braced ("package " ++ o.name) <|
    o.interfaces.flatMap (entityLines .interfaceType) ++ o.classes.flatMap (entityLines .classType)

/-- The lines of a document with the outline. -/
def lines (o : Outline) : List String :=
  Document.preamble ++ o.packages.flatMap packageLines
    ++ ("" :: Document.relationshipsHeading :: o.arrows ++ [Document.closing])

theorem flatMap_entityLines {kind : DeclarationKind} {es : List Entity}
    (h : ∀ e ∈ es, e.kind = kind) (cwd : Path) :
    (es.map (·.outline cwd)).flatMap (entityLines kind) = es.flatMap (Document.entityLines cwd) := by
  rw [List.flatMap_map]
  refine List.flatMap_congr fun e he => ?_
  rw [← h e he]
  rfl

/-- A document depends on its outline only. -/
theorem lines_ofDocument (cwd : Path) {index : NamespaceIndex}
    (h : ∀ p ∈ index.packages, p.WellKinded) (set : RelationshipSet) :
    (ofDocument cwd index set).lines = Document.lines cwd index set := by
  have hpackages : (index.packages.map (·.outline cwd)).flatMap packageLines
      = index.packages.flatMap (Document.packageLines cwd) := by
    rw [List.flatMap_map]
    refine List.flatMap_congr fun p hp => ?_
    rw [packageLines, Document.packageLines, List.flatMap_append]
    congr 1
    congr 1
    · exact flatMap_entityLines (h p hp).interfaces cwd
    · exact flatMap_entityLines (h p hp).classes cwd
  rw [lines, ofDocument, hpackages]
  rfl

end Outline

/-! ## Lines without line feeds -/

/-- No name of the entity breaks a line. -/
structure Entity.OneLined (e : Entity) : Prop where
  namespaceName : OneLine e.namespaceName
  name : OneLine e.name
  members : ∀ m ∈ e.members, OneLine m.name ∧ OneLine m.type
  bases : ∀ b ∈ e.bases, OneLine b

instance (e : Entity) : Decidable e.OneLined :=
  decidable_of_iff
    (OneLine e.namespaceName ∧ OneLine e.name ∧ (∀ m ∈ e.members, OneLine m.name ∧ OneLine m.type)
      ∧ ∀ b ∈ e.bases, OneLine b)
    ⟨fun ⟨hn, he, hm, hb⟩ => ⟨hn, he, hm, hb⟩, fun ⟨hn, he, hm, hb⟩ => ⟨hn, he, hm, hb⟩⟩

namespace Document

theorem oneLine_braced {head : String} {inner : List String} (hhead : OneLine head)
    (hinner : ∀ l ∈ inner, OneLine l) : ∀ line ∈ braced head inner, OneLine line := by
  intro line hline
  simp only [braced, List.mem_append, List.mem_cons, List.not_mem_nil, or_false] at hline
  rcases hline with (rfl | hline) | rfl
  · rw [oneLine_append]
    exact ⟨hhead, by decide⟩
  · exact hinner line hline
  · decide

theorem oneLine_indented {inner : List String} (h : ∀ l ∈ inner, OneLine l) :
    ∀ line ∈ inner.map indented, OneLine line := by
  intro line hline
  obtain ⟨l, hl, rfl⟩ := List.mem_map.1 hline
  rw [indented, oneLine_append]
  exact ⟨by decide, h l hl⟩

theorem oneLine_entityStyle {head background border header : String} (hhead : OneLine head)
    (hbackground : OneLine background) (hborder : OneLine border) (hheader : OneLine header) :
    ∀ line ∈ entityStyle head background border header, OneLine line := by
  apply oneLine_braced hhead
  apply oneLine_indented
  simp only [List.forall_mem_cons, List.not_mem_nil, IsEmpty.forall_iff, implies_true, and_true,
    oneLine_append, hbackground, hborder, hheader]
  decide

theorem oneLine_preamble : ∀ line ∈ preamble, OneLine line := by
  intro line hline
  simp only [preamble, List.mem_append, List.mem_cons] at hline
  rcases hline with (((rfl | hconfiguration) | hclass) | hinterface) | harrow
  · decide
  · have hall : ∀ l ∈ configuration, OneLine l := by decide
    exact hall line hconfiguration
  · exact oneLine_entityStyle (by decide) (by decide) (by decide) (by decide) line hclass
  · exact oneLine_entityStyle (by decide) (by decide) (by decide) (by decide) line hinterface
  · exact oneLine_braced (by decide) (oneLine_indented (by decide)) line harrow

theorem oneLine_memberLines {e : Entity} (h : e.OneLined) :
    ∀ line ∈ memberLines e, OneLine line := by
  intro line hline
  unfold memberLines at hline
  split at hline
  · obtain ⟨m, hm, rfl⟩ := List.mem_map.1 hline
    obtain ⟨hname, htype⟩ := h.members m hm
    have hmarker : OneLine m.marker := by
      unfold Member.marker
      split <;> decide
    simp only [indented, classMember]
    split <;> simp only [oneLine_append, hmarker, hname, htype] <;> decide
  · obtain ⟨text, htext, rfl⟩ := List.mem_map.1 hline
    obtain ⟨m, hm, hshown⟩ := List.mem_filterMap.1 htext
    obtain ⟨hname, htype⟩ := h.members m hm
    unfold interfaceMember? at hshown
    split at hshown
    · cases hshown
      simp only [indented, oneLine_append, hname]
      decide
    · cases hshown
      simp only [indented, oneLine_append, hname, htype]
      decide
    · cases hshown

theorem oneLine_entityHead (cwd : Path) {e : Entity} (h : e.OneLined) :
    OneLine (entityHead cwd e) := by
  have hlink : OneLine (Uri.ofPath cwd e.source) := Uri.not_mem_ofPath (by decide) (by decide)
  have hkeyword : OneLine e.kind.keyword := by
    cases e.kind <;> decide
  simp only [entityHead, oneLine_append, hkeyword, h.name, hlink]
  decide

theorem oneLine_entityLines (cwd : Path) {e : Entity} (h : e.OneLined) :
    ∀ line ∈ entityLines cwd e, OneLine line := by
  intro line hline
  rcases List.mem_append.1 hline with hblock | hblank
  · exact oneLine_braced (oneLine_entityHead cwd h) (oneLine_memberLines h) line hblock
  · rw [List.mem_singleton.1 hblank]
    decide

theorem oneLine_packageLines (cwd : Path) {p : Package} (hname : OneLine p.name)
    (h : ∀ e ∈ p.interfaces ++ p.classes, e.OneLined) :
    ∀ line ∈ packageLines cwd p, OneLine line := by
  apply oneLine_braced
  · rw [oneLine_append]
    exact ⟨by decide, hname⟩
  · intro line hline
    obtain ⟨e, he, hentity⟩ := List.mem_flatMap.1 hline
    exact oneLine_entityLines cwd (h e he) line hentity

theorem oneLine_arrows {types : BuiltInTypes} {xs ys : List Entity} (hx : ∀ e ∈ xs, e.OneLined)
    (hy : ∀ e ∈ ys, e.OneLined) :
    ∀ line ∈ (RelationshipSet.infer types xs (.ofList ys)).lines, OneLine line := by
  intro line hline
  rcases RelationshipSet.exists_of_mem_lines_infer hline with
    ⟨c, hc, b, hb, rfl⟩ | ⟨c, hc, m, hm, rfl⟩
  · simp only [oneLine_append, (hx c hc).name, (hx c hc).bases b hb]
    decide
  · simp only [oneLine_append, (hy c hc).name, ((hy c hc).members m hm).2]
    decide

/-- Every line of a run's document is one line. -/
theorem oneLine_lines (cwd : Path) (types : BuiltInTypes) {es : List Entity}
    (h : ∀ e ∈ es, e.OneLined) :
    ∀ line ∈ lines cwd (.ofList es) (RelationshipSet.infer types es (.ofList es)),
      OneLine line := by
  have hgroups := NamespaceIndex.groups_ofList es
  intro line hline
  simp only [lines, relationshipLines, List.cons_append, List.mem_append, List.mem_cons,
    List.not_mem_nil, or_false, List.mem_flatMap] at hline
  rcases hline with (hpreamble | ⟨p, hp, hpackage⟩) | rfl | rfl | harrow | rfl
  · exact oneLine_preamble line hpreamble
  · have hname : p.name ∈ es.map (·.namespaceName) :=
      (hgroups.mem_namespaces _).1 (List.mem_map_of_mem hp)
    obtain ⟨d, hd, hdname⟩ := List.mem_map.1 hname
    refine oneLine_packageLines cwd ?_ ?_ line hpackage
    · rw [← hdname]
      exact (h d hd).namespaceName
    · exact fun e he => h e (hgroups.mem_of_mem_package hp he)
  · decide
  · decide
  · exact oneLine_arrows h h line harrow
  · decide

/-! ## Delimiters -/

/-- The lines that tell a reader where a part of the document starts or ends. -/
def delimiters : List String := [opening, relationshipsHeading, closing, "\x7d", ""]

theorem memberLine_not_delimiter {e : Entity} {line : String} (h : line ∈ memberLines e) :
    line ∉ delimiters := by
  -- the reader's own tests tell the lines from every delimiter
  have hindented := Outline.isIndented_of_mem_memberLines h
  have hnone : ∀ d ∈ delimiters, ¬ Outline.isIndented d := by decide
  exact fun hd => hnone line hd hindented

theorem entityHead_not_delimiter (cwd : Path) (e : Entity) :
    entityHead cwd e ++ " \x7b" ∉ delimiters := by
  have hread := Outline.entityHead?_head cwd e
  have hnone : ∀ d ∈ delimiters, Outline.entityHead? d = none := by decide
  intro hd
  rw [hnone _ hd] at hread
  cases hread

theorem packageHead_not_delimiter (name : String) :
    "package " ++ name ++ " \x7b" ∉ delimiters := by
  have hread := Outline.packageName?_head name
  have hnone : ∀ d ∈ delimiters, Outline.packageName? d = none := by decide
  intro hd
  rw [hnone _ hd] at hread
  cases hread

theorem arrow_not_delimiter {types : BuiltInTypes} {xs ys : List Entity} {line : String}
    (h : line ∈ (RelationshipSet.infer types xs (.ofList ys)).lines) : line ∉ delimiters := by
  have hdash : '-' ∈ line.toList := by
    rcases RelationshipSet.exists_of_mem_lines_infer h with
      ⟨c, _, b, _, rfl⟩ | ⟨c, _, m, _, rfl⟩
    · simp
    · simp
  have hnone : ∀ d ∈ delimiters, '-' ∉ d.toList := by decide
  exact fun hd => hnone line hd hdash

/-- The lines between which everything else stands. -/
def frame : List String := [opening, relationshipsHeading, closing]

theorem frame_not_mem_packages (cwd : Path) (ps : List Package) {line : String}
    (h : line ∈ frame) : line ∉ ps.flatMap (packageLines cwd) := by
  have hdelimiter : line ∈ delimiters := by
    have hall : ∀ l ∈ frame, l ∈ delimiters := by decide
    exact hall line h
  have hother : line ≠ "\x7d" ∧ line ≠ "" := by
    have hall : ∀ l ∈ frame, l ≠ "\x7d" ∧ l ≠ "" := by decide
    exact hall line h
  simp only [packageLines, entityLines, braced, List.mem_append, List.mem_cons,
    List.not_mem_nil, or_false, List.mem_flatMap]
  rintro ⟨p, _, (heq | ⟨e, _, ((heq | hm) | heq) | heq⟩) | heq⟩
  · exact packageHead_not_delimiter p.name (heq ▸ hdelimiter)
  · exact entityHead_not_delimiter cwd e (heq ▸ hdelimiter)
  · exact memberLine_not_delimiter hm hdelimiter
  · exact hother.1 heq
  · exact hother.2 heq
  · exact hother.1 heq

/-- Each line of the frame is written once, whatever names there are. -/
theorem count_frame_line (cwd : Path) (types : BuiltInTypes) (es : List Entity) {line : String}
    (h : line ∈ frame) :
    (lines cwd (.ofList es) (RelationshipSet.infer types es (.ofList es))).count line = 1 := by
  have hpackages := frame_not_mem_packages cwd (NamespaceIndex.ofList es).packages h
  have harrows : line ∉ (RelationshipSet.infer types es (.ofList es)).lines := by
    have hall : ∀ l ∈ frame, l ∈ delimiters := by decide
    exact fun hmem => arrow_not_delimiter hmem (hall line h)
  -- the rest is the same in every document
  have hfixed : preamble.count line + ["", relationshipsHeading].count line
      + [closing].count line = 1 := by
    have hall : ∀ l ∈ frame, preamble.count l + ["", relationshipsHeading].count l
        + [closing].count l = 1 := by decide
    exact hall line h
  have hsplit : relationshipLines (RelationshipSet.infer types es (.ofList es))
      = ["", relationshipsHeading]
        ++ ((RelationshipSet.infer types es (.ofList es)).lines ++ [closing]) := rfl
  rw [lines, hsplit, List.count_append, List.count_append, List.count_append, List.count_append,
    List.count_eq_zero_of_not_mem hpackages, List.count_eq_zero_of_not_mem harrows]
  omega

/-- The closing line stands nowhere but at the end. -/
theorem count_closing_lines (cwd : Path) (types : BuiltInTypes) (es : List Entity) :
    (lines cwd (.ofList es) (RelationshipSet.infer types es (.ofList es))).count closing = 1 :=
  count_frame_line cwd types es (by decide)

end Document

/-! ## Documents of runs -/

namespace Report

/-- The outline of the document that a report has. -/
def outline (cwd : Path) (report : Report) : Outline :=
  .ofDocument cwd report.index report.relationships

theorem document_ofEntities (cwd : Path) (types : BuiltInTypes) (es : List Entity) :
    (ofEntities cwd types es).document
      = Document.ofLines
          (Document.lines cwd (.ofList es) (RelationshipSet.infer types es (.ofList es))) := by
  simp only [ofEntities, Document.render]

theorem ofText_document (cwd : Path) (types : BuiltInTypes) {es : List Entity}
    (h : ∀ e ∈ es, e.OneLined) :
    Lines.ofText (ofEntities cwd types es).document
      = Document.lines cwd (.ofList es) (RelationshipSet.infer types es (.ofList es)) := by
  rw [document_ofEntities, Lines.ofText_ofLines (Document.oneLine_lines cwd types h)]

theorem read?_document (cwd : Path) (types : BuiltInTypes) {es : List Entity}
    (h : ∀ e ∈ es, e.OneLined) :
    Outline.read? (ofEntities cwd types es).document = some ((ofEntities cwd types es).outline cwd) := by
  rw [Outline.read?, ofText_document cwd types h]
  exact Outline.readLines?_lines cwd (NamespaceIndex.groups_ofList es).wellKinded _

theorem document_eq_of_outline_eq {cwd cwd' : Path} {types types' : BuiltInTypes}
    {es es' : List Entity}
    (h : (ofEntities cwd types es).outline cwd = (ofEntities cwd' types' es').outline cwd') :
    (ofEntities cwd types es).document = (ofEntities cwd' types' es').document := by
  have hlines := Outline.lines_ofDocument cwd (NamespaceIndex.groups_ofList es).wellKinded
    (RelationshipSet.infer types es (.ofList es))
  have hlines' := Outline.lines_ofDocument cwd' (NamespaceIndex.groups_ofList es').wellKinded
    (RelationshipSet.infer types' es' (.ofList es'))
  rw [document_ofEntities, document_ofEntities, ← hlines, ← hlines']
  exact congrArg (fun o => Document.ofLines (Outline.lines o)) h

/-- Two indices show the same packages just when they have the same namespaces
    and show the same in each of them. -/
theorem map_outline_packages_eq_iff (cwd cwd' : Path) {index index' : NamespaceIndex}
    {es es' : List Entity} (hgroups : index.Groups es) (hgroups' : index'.Groups es') :
    index.packages.map (·.outline cwd) = index'.packages.map (·.outline cwd')
      ↔ index.namespaces = index'.namespaces
        ∧ ∀ n ∈ index.namespaces,
            (index.get? n).map (·.outline cwd) = (index'.get? n).map (·.outline cwd') := by
  constructor
  · intro h
    have hnames : index.namespaces = index'.namespaces := by
      have hmap := congrArg (List.map PackageOutline.name) h
      rw [List.map_map, List.map_map] at hmap
      exact hmap
    refine ⟨hnames, fun n hn => ?_⟩
    rw [hgroups.packages_eq, hgroups'.packages_eq, ← hnames, List.map_map, List.map_map] at h
    rw [hgroups.get?_eq, hgroups'.get?_eq, ← hnames, if_pos hn, if_pos hn]
    exact congrArg some (List.map_inj_left.1 h n hn)
  · rintro ⟨hnames, hshown⟩
    rw [hgroups.packages_eq, hgroups'.packages_eq, ← hnames, List.map_map, List.map_map]
    refine List.map_congr_left fun n hn => ?_
    have hn' : n ∈ index'.namespaces := hnames ▸ hn
    have hpackage := hshown n hn
    rw [hgroups.get?_eq, hgroups'.get?_eq, if_pos hn, if_pos hn'] at hpackage
    exact Option.some.inj hpackage

/-- The document of a run is determined by what the run shows and determines it:
    the namespaces, in each the interfaces and the classes by their names, links
    and member lines, and the arrows.  It is read back line by line, ends in its
    only closing line, and no line of an entity or arrow is a delimiter. -/
theorem document_eq_iff_shown (cwd cwd' : Path) (types types' : BuiltInTypes)
    {es es' : List Entity} (h : ∀ e ∈ es, e.OneLined) (h' : ∀ e ∈ es', e.OneLined) :
    let report := ofEntities cwd types es
    let report' := ofEntities cwd' types' es'
    (report.document = report'.document
        ↔ report.index.namespaces = report'.index.namespaces
          ∧ (∀ n ∈ report.index.namespaces,
              (report.index.get? n).map (·.outline cwd)
                = (report'.index.get? n).map (·.outline cwd'))
          ∧ report.relationships.lines = report'.relationships.lines)
      ∧ Outline.read? report.document = some (report.outline cwd)
      ∧ (Lines.ofText report.document).count "@enduml" = 1
      ∧ (Lines.ofText report.document).getLast? = some "@enduml"
      ∧ (∀ p ∈ report.index.packages, ∀ e ∈ p.interfaces ++ p.classes,
          ∀ line ∈ (Document.entityHead cwd e ++ " \x7b") :: Document.memberLines e,
            line ∉ Document.delimiters)
      ∧ ∀ line ∈ report.relationships.lines, line ∉ Document.delimiters := by
  intro report report'
  have hread : Outline.read? report.document = some (report.outline cwd) :=
    read?_document cwd types h
  have hread' : Outline.read? report'.document = some (report'.outline cwd') :=
    read?_document cwd' types' h'
  have hdocument : report.document = report'.document
      ↔ report.outline cwd = report'.outline cwd' := by
    constructor
    · -- equal texts have one outline, and each text has its own run's
      intro heq
      rw [heq, hread'] at hread
      exact (Option.some.inj hread).symm
    · exact document_eq_of_outline_eq
  have hlines := ofText_document cwd types h
  refine ⟨?_, hread, ?_, ?_, ?_, ?_⟩
  · have hpackages := map_outline_packages_eq_iff cwd cwd'
      (NamespaceIndex.groups_ofList es) (NamespaceIndex.groups_ofList es')
    rw [hdocument, ← and_assoc]
    exact Iff.trans (iff_of_eq (Outline.mk.injEq ..)) (and_congr_left' hpackages)
  · rw [hlines]
    exact Document.count_closing_lines cwd types es
  · rw [hlines, Document.lines, Document.relationshipLines, List.getLast?_append,
      List.getLast?_append]
    rfl
  · intro p _ e _ line hline
    rcases List.mem_cons.1 hline with rfl | hline
    · exact Document.entityHead_not_delimiter cwd e
    · exact Document.memberLine_not_delimiter hline
  · exact fun line hline => Document.arrow_not_delimiter hline

/-- A class whose name goes on like the head of a class of another name, with
    members and bases that look like the end of the document. -/
theorem document_eq_iff_shown_lookalikes :
    let short : Entity :=
      { kind := .classType, name := "A", bases := ["@enduml"], source := .ofString "/a",
        members := [⟨.field, "\x7d", "@enduml", true⟩] }
    let long : Entity := { short with name := "A <<Clickable>> [[file:///a]] \x7b" }
    (∀ e ∈ [short], e.OneLined) ∧ (∀ e ∈ [long], e.OneLined)
      ∧ (ofEntities .top {} [short]).document ≠ (ofEntities .top {} [long]).document
      ∧ (Lines.ofText (ofEntities .top {} [long]).document).count "@enduml" = 1 := by
  intro short long
  have hshort : ∀ e ∈ [short], e.OneLined := by decide
  have hlong : ∀ e ∈ [long], e.OneLined := by decide
  refine ⟨hshort, hlong, fun heq => ?_, ?_⟩
  · have hshown := ((document_eq_iff_shown .top .top {} {} hshort hlong).1.1 heq).2.1
    have hglobal := hshown "Global" (by decide)
    have hnames := congrArg (Option.map fun p => p.classes.map EntityOutline.name) hglobal
    exact absurd hnames (by decide)
  · exact (document_eq_iff_shown .top .top {} {} hlong hlong).2.2.1

end Report

end ClassAtlas

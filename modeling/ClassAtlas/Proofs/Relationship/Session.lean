import Mathlib.Data.List.Induction
import ClassAtlas.Proofs.Relationship.Deduplication
import ClassAtlas.Proofs.Relationship.Text

/-! # Sets under insertions and clearings

    A set of arrows is filled one by one and now and then cleared.  Each insertion
    answers whether it added the arrow; the answers since the last clearing are a
    log, which no set keeps.  One edit keeps set and log in step
    (`RelationshipSet.Session.InStep.step`), and so does a run of edits, so that
    the set can be read off the log (`RelationshipSet.Session.run_in_step`).

    Arrows whose sources hold no shaft are told apart by their lines.  Of such
    arrows an insertion turns down those only that are in the set already
    (`RelationshipSet.plain_arrows_told_apart`).
-/

namespace ClassAtlas.RelationshipSet

/-! ## One insertion -/

theorem insert_of_admits {set : RelationshipSet} {r : Relationship} (h : set.admits r) :
    (set.insert r).edges = set.edges ++ [r] := by
  have hnew : ¬ set.contains r.text := by simpa [admits] using h
  rw [insert, if_neg hnew]

theorem insert_of_not_admits {set : RelationshipSet} {r : Relationship} (h : ¬ set.admits r) :
    set.insert r = set := by
  have hold : set.contains r.text := by simpa [admits] using h
  rw [insert, if_pos hold]

/-- What stands in the set stays where it is. -/
theorem edges_isPrefix_insert (set : RelationshipSet) (r : Relationship) :
    set.edges <+: (set.insert r).edges := by
  by_cases h : set.admits r
  · rw [insert_of_admits h]
    exact List.prefix_append _ _
  · exact (insert_of_not_admits h).symm ▸ List.prefix_rfl

/-- An insertion adds one arrow if it says so, and else none. -/
theorem size_insert (set : RelationshipSet) (r : Relationship) :
    (set.insert r).size = set.size + (set.admits r).toNat := by
  by_cases h : set.admits r
  · rw [size, insert_of_admits h, List.length_append, h]
    rfl
  · have hnone : set.admits r = false := by simpa using h
    rw [insert_of_not_admits h, hnone]
    rfl

theorem nodup_lines_insert {set : RelationshipSet} (h : set.lines.Nodup) (r : Relationship) :
    (set.insert r).lines.Nodup := by
  by_cases hnew : set.admits r
  · have hline : r.text ∉ set.lines := by
      simpa [admits, contains] using hnew
    rw [lines, insert_of_admits hnew, List.map_append, List.map_singleton,
      (List.perm_append_singleton _ _).nodup_iff]
    exact List.nodup_cons.2 ⟨hline, h⟩
  · rw [insert_of_not_admits hnew]
    exact h

/-! ## Edits -/

/-- One change of a set. -/
inductive Edit where
  /-- An arrow is inserted. -/
  | insert (r : Relationship)
  /-- All arrows are thrown away. -/
  | clear
  deriving DecidableEq, Repr

/-- A set, and the insertions since it was cleared, each with its answer. -/
structure Session where
  set : RelationshipSet := .empty
  log : List (Relationship × Bool) := []
  deriving DecidableEq, Repr

namespace Session

/-- The arrows that were inserted since the last clearing, whether they went in
    or not. -/
def came (s : Session) : List Relationship := s.log.map (·.1)

/-- How many insertions since the last clearing added their arrow. -/
def added (s : Session) : Nat := s.log.countP (·.2)

def step (s : Session) : Edit → Session
  | .insert r => { set := s.set.insert r, log := s.log ++ [(r, s.set.admits r)] }
  | .clear => {}

/-- The session after a run of edits, from the empty set. -/
def run (edits : List Edit) : Session := edits.foldl step {}

/-- The set holds what the log says. -/
structure InStep (s : Session) : Prop where
  records : s.set.Records s.came
  nodup : s.set.lines.Nodup
  size : s.set.size = s.added

theorem InStep.step {s : Session} (h : s.InStep) (edit : Edit) : (s.step edit).InStep := by
  cases edit with
  | insert r =>
    refine ⟨?_, nodup_lines_insert h.nodup r, ?_⟩
    · have hcame : (s.step (.insert r)).came = s.came ++ [r] := by
        simp [came, Session.step]
      rw [hcame]
      exact h.records.insert r
    · have hadded : (s.step (.insert r)).added = s.added + (s.set.admits r).toNat := by
        simp only [added, Session.step, List.countP_append, List.countP_singleton]
        cases s.set.admits r <;> rfl
      rw [hadded, ← h.size]
      exact size_insert s.set r
  | clear => exact ⟨records_empty, List.nodup_nil, rfl⟩

theorem inStep_run (edits : List Edit) : (run edits).InStep := by
  induction edits using List.reverseRecOn with
  | nil => exact ⟨records_empty, List.nodup_nil, rfl⟩
  | append_singleton edits edit ih =>
    rw [run, List.foldl_append]
    exact ih.step edit

/-- After any run of edits no two lines are equal and each is that of the arrow in
    its place.  The lines are the texts that came since the last clearing, without
    repetitions and in the order of their first arrival, and the arrow of a line
    is the first that read so; there are as many as insertions answered that they
    added one.  The set has the lines that came and no other.  A further insertion
    leaves all lines and arrows in place and puts at most one behind them. -/
theorem run_in_step (edits : List Edit) :
    let s := run edits
    s.set.lines.Nodup
      ∧ (∀ i : Nat, s.set.lines[i]? = (s.set.edges[i]?).map (·.text))
      ∧ s.set.lines = (s.came.map (·.text)).eraseDups
      ∧ s.set.edges.map some = s.set.lines.map (firstWith s.came)
      ∧ s.set.size = s.added
      ∧ (∀ line, s.set.contains line ↔ ∃ r ∈ s.came, r.text = line)
      ∧ ∀ r, let s' := run (edits ++ [.insert r])
          s.set.edges <+: s'.set.edges ∧ s.set.lines <+: s'.set.lines
            ∧ s'.set.size ≤ s.set.size + 1 := by
  intro s
  have h : s.InStep := inStep_run edits
  refine ⟨h.nodup, fun i => List.getElem?_map, h.records.lines, h.records.edges, h.size,
    fun line => ?_, fun r => ?_⟩
  · rw [h.records.contains_iff, List.mem_map]
  · have hnext : (run (edits ++ [.insert r])).set = s.set.insert r := by
      rw [run, List.foldl_append]
      rfl
    have hedges := edges_isPrefix_insert s.set r
    have hsize := size_insert s.set r
    have hone := Bool.toNat_le (s.set.admits r)
    simp only [hnext]
    exact ⟨hedges, hedges.map _, by omega⟩

end Session

/-! ## Plain arrows -/

theorem contains_insertAll_iff {rs : List Relationship} {line : String} :
    (empty.insertAll rs).contains line ↔ line ∈ rs.map (·.text) :=
  (records_empty.insertAll rs).contains_iff line

/-- After plain arrows a plain one is turned down just if it was among them. -/
theorem admits_insertAll_eq_false_iff {rs : List Relationship} (hrs : ∀ r ∈ rs, r.Plain)
    {r : Relationship} (hr : r.Plain) : (empty.insertAll rs).admits r = false ↔ r ∈ rs := by
  have hline : r.text ∈ rs.map (·.text) ↔ r ∈ rs := by
    constructor
    · intro h
      obtain ⟨s, hs, htext⟩ := List.mem_map.1 h
      rwa [← Relationship.eq_of_text_eq (hrs s hs) hr htext]
    · exact List.mem_map_of_mem
  rw [admits, Bool.not_eq_false', contains_insertAll_iff, hline]

theorem edges_insertAll_of_plain {rs : List Relationship} (hrs : ∀ r ∈ rs, r.Plain) :
    (empty.insertAll rs).edges = rs.eraseDups := by
  induction rs using List.reverseRecOn with
  | nil => rfl
  | append_singleton rs r ih =>
    obtain ⟨hrs, hr⟩ := List.forall_mem_append.1 hrs
    have hadmits := admits_insertAll_eq_false_iff hrs (hr r (List.mem_singleton_self r))
    have hconcat : empty.insertAll (rs ++ [r]) = (empty.insertAll rs).insert r := by
      rw [insertAll, List.foldl_append]
      rfl
    rw [hconcat, List.eraseDups_append]
    by_cases hmem : r ∈ rs
    · have hgone : [r].removeAll rs = [] := by simp [List.removeAll, hmem]
      rw [insert_of_not_admits (by simpa using hadmits.2 hmem), ih hrs, hgone,
        List.eraseDups_nil, List.append_nil]
    · have hkept : [r].removeAll rs = [r] := by simp [List.removeAll, hmem]
      rw [insert_of_admits (by simpa using mt hadmits.1 hmem), ih hrs, hkept]
      rfl

/-- Two arrows without a shaft in their sources read the same just if they have
    kind, source and target in common.  Inserted one after the other into an empty
    set, such an arrow is turned down just if the same came before it, so that
    the set has each that came, where it came first. -/
theorem plain_arrows_told_apart :
    (∀ r s : Relationship, r.Plain → s.Plain →
      (r.text = s.text ↔ r.kind = s.kind ∧ r.source = s.source ∧ r.target = s.target))
    ∧ ∀ rs : List Relationship, (∀ r ∈ rs, r.Plain) →
      (∀ front r back, rs = front ++ r :: back →
        ((empty.insertAll front).admits r = false ↔ r ∈ front))
      ∧ (empty.insertAll rs).edges = rs.eraseDups := by
  constructor
  · intro r s hr hs
    constructor
    · intro h
      rw [Relationship.eq_of_text_eq hr hs h]
      exact ⟨rfl, rfl, rfl⟩
    · rintro ⟨hkind, hsource, htarget⟩
      rw [Relationship.text, Relationship.text, hkind, hsource, htarget]
  · intro rs hrs
    refine ⟨?_, edges_insertAll_of_plain hrs⟩
    rintro front r back rfl
    obtain ⟨hfront, hback⟩ := List.forall_mem_append.1 hrs
    exact admits_insertAll_eq_false_iff hfront (hback r List.mem_cons_self)

/-- A source that ends like the beginning of a shaft, and a target that holds all of
    an association's line. -/
theorem plain_arrows_told_apart_lookalikes :
    let up : Relationship := ⟨.inheritance, "Cache -", "Map<A --> B : has>"⟩
    let across : Relationship := ⟨.association, "Cache -", "Map<A --> B : has>"⟩
    (∀ r ∈ [up, across, up], r.Plain)
      ∧ up.text ≠ across.text
      ∧ (empty.insertAll [up, across]).admits up = false
      ∧ (empty.insertAll [up, across, up]).edges = [up, across] := by
  intro up across
  have hplain : ∀ r ∈ [up, across, up], r.Plain := by decide +kernel
  obtain ⟨htext, hinsert⟩ := plain_arrows_told_apart
  obtain ⟨hanswers, hedges⟩ := hinsert _ hplain
  refine ⟨hplain, fun heq => ?_, ?_, ?_⟩
  · have hkind := ((htext up across (hplain _ (by decide)) (hplain _ (by decide))).1 heq).1
    cases hkind
  · exact (hanswers [up, across] up [] rfl).2 (by decide)
  · rw [hedges]
    decide

end ClassAtlas.RelationshipSet

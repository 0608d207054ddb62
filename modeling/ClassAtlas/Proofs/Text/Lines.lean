import ClassAtlas.Document

/-! # Lines of a text

    The pieces that line feeds end, and what stands after the last one if
    anything does.  Lines that hold no line feed are found again in the text
    that is made of them (`Lines.ofText_ofLines`).
-/

namespace ClassAtlas

/-- No line feed stands in the text. -/
def OneLine (s : String) : Prop := '\n' ∉ s.toList

instance (s : String) : Decidable (OneLine s) := inferInstanceAs (Decidable (_ ∉ _))

@[simp] theorem oneLine_append {s t : String} : OneLine (s ++ t) ↔ OneLine s ∧ OneLine t := by
  simp [OneLine, not_or]

theorem Document.ofLines_append (ls ms : List String) :
    ofLines (ls ++ ms) = ofLines ls ++ ofLines ms := by
  rw [ofLines, ofLines, ofLines, List.map_append, String.join_append]

namespace Lines

/-- The lines of a list of characters. -/
def cut : List Char → List (List Char)
  | [] => []
  | c :: cs =>
    if c = '\n' then [] :: cut cs
    else
      match cut cs with
      | [] => [[c]]
      | line :: lines => (c :: line) :: lines

/-- The lines of a text. -/
def ofText (s : String) : List String := (cut s.toList).map String.ofList

theorem cut_append {line : List Char} (h : '\n' ∉ line) (rest : List Char) :
    cut (line ++ '\n' :: rest) = line :: cut rest := by
  induction line with
  | nil => rfl
  | cons c line ih =>
    obtain ⟨hc, hline⟩ := not_or.1 (mt List.mem_cons.2 h)
    -- the rest has a line already, which the character joins
    rw [List.cons_append, cut, if_neg (Ne.symm hc), ih hline]

theorem ofText_ofLines {ls : List String} (h : ∀ l ∈ ls, OneLine l) :
    ofText (Document.ofLines ls) = ls := by
  rw [ofText, Document.ofLines, String.toList_join]
  induction ls with
  | nil => rfl
  | cons l ls ih =>
    have htext : ((l :: ls).map (· ++ "\n")).flatMap String.toList
        = l.toList ++ '\n' :: (ls.map (· ++ "\n")).flatMap String.toList := by
      simp
    rw [htext, cut_append (h l List.mem_cons_self), List.map_cons, String.ofList_toList,
      ih fun m hm => h m (List.mem_cons_of_mem _ hm)]

theorem cut_cons_ne_nil (c : Char) (cs : List Char) : cut (c :: cs) ≠ [] := by
  rw [cut]
  split
  · simp
  · split <;> simp

/-- What a line feed ends is cut without a look at what comes after it. -/
theorem cut_append_feed (front rest : List Char) :
    cut (front ++ '\n' :: rest) = cut (front ++ ['\n']) ++ cut rest := by
  induction front with
  | nil => simp [cut]
  | cons c front ih =>
    rw [List.cons_append, List.cons_append, cut, cut, ih]
    by_cases hc : c = '\n'
    · simp [hc]
    · -- the character joins the first line, which the line feed has ended at the latest
      have hne : cut (front ++ ['\n']) ≠ [] := by
        cases front with
        | nil => exact cut_cons_ne_nil _ _
        | cons d front => exact cut_cons_ne_nil _ _
      obtain ⟨line, lines, heq⟩ := List.exists_cons_of_ne_nil hne
      simp [hc, heq]

/-- The lines of what is written first, then those of the rest, even if what is
    written as one line holds line feeds. -/
theorem ofText_ofLines_append (ls ms : List String) :
    ofText (Document.ofLines (ls ++ ms))
      = ofText (Document.ofLines ls) ++ ofText (Document.ofLines ms) := by
  induction ls with
  | nil => rfl
  | cons l ls ih =>
    have htext : ∀ ks : List String, (Document.ofLines (l :: ks)).toList
        = l.toList ++ '\n' :: (Document.ofLines ks).toList := by
      intro ks
      simp [Document.ofLines, String.toList_join]
    have hcut : ∀ ks : List String, ofText (Document.ofLines (l :: ks))
        = (cut (l.toList ++ ['\n'])).map String.ofList ++ ofText (Document.ofLines ks) := by
      intro ks
      rw [ofText, htext, cut_append_feed, List.map_append]
      rfl
    rw [List.cons_append, hcut, ih, hcut, List.append_assoc]

end Lines

end ClassAtlas

import Mathlib.Data.Bool.AllAny
import Mathlib.Data.List.Chain
import ClassAtlas.Proofs.Manifest.Lexing

/-! # A text spells one value

    No text spells two values (`Value.SpelledAs.unique`), in whatever layout and
    with whatever escapes it is written.

    Where a lexeme ends can be seen from the text, with one exception: a number
    goes on as long as digits follow.  In the lexemes of a value no number follows
    a number, so the text gives the lexemes back.  The lexemes give the value
    back, since brackets and commas tell where its parts end.
-/

namespace ClassAtlas.Manifest

/-! ## Where a part of a text ends -/

/-- The text does not start with a character that has the property. -/
def Stops (p : Char → Prop) (cs : List Char) : Prop := ∀ c ∈ cs.head?, ¬ p c

theorem stops_nil (p : Char → Prop) : Stops p [] := nofun

/-- Characters with a property are told from what follows them if that starts
    without it. -/
theorem append_inj_of_stops {p : Char → Prop} {front front' rest rest' : List Char}
    (hfront : ∀ c ∈ front, p c) (hfront' : ∀ c ∈ front', p c) (hrest : Stops p rest)
    (hrest' : Stops p rest') (h : front ++ rest = front' ++ rest') :
    front = front' ∧ rest = rest' := by
  induction front generalizing front' with
  | nil =>
    cases front' with
    | nil => exact ⟨rfl, h⟩
    | cons c front' =>
      rw [List.nil_append] at h
      exact absurd (hfront' c List.mem_cons_self) (hrest c (by simp [h]))
  | cons c front ih =>
    cases front' with
    | nil =>
      rw [List.nil_append] at h
      exact absurd (hfront c List.mem_cons_self) (hrest' c (by simp [← h]))
    | cons c' front' =>
      obtain ⟨hc, hrests⟩ := List.cons.inj h
      obtain ⟨hfronts, heq⟩ := ih (fun d hd => hfront d (List.mem_cons_of_mem _ hd))
        (fun d hd => hfront' d (List.mem_cons_of_mem _ hd)) hrests
      exact ⟨by rw [hc, hfronts], heq⟩

/-! ## Numbers -/

/-- A character that can stand in a number. -/
def IsNumeric (c : Char) : Prop := c.isDigit ∨ c ∈ ['-', '+', '.', 'e', 'E']

instance (c : Char) : Decidable (IsNumeric c) := inferInstanceAs (Decidable (_ ∨ _))

theorem stops_of_exponent {cs : List Char} (h : IsExponent cs) : Stops (·.isDigit) cs := by
  intro c hc
  cases h with
  | none => cases hc
  | some hletter =>
    have hall : ∀ d ∈ ['e', 'E'], ¬ d.isDigit := List.all_iff_forall_prop.1 (by decide)
    cases hc
    exact hall _ hletter

theorem stops_of_fraction {fraction exponent : List Char} (hf : IsFraction fraction)
    (he : IsExponent exponent) : Stops (·.isDigit) (fraction ++ exponent) := by
  cases hf with
  | none => exact stops_of_exponent he
  | some _ =>
    intro c hc
    cases hc
    decide

theorem isDigit_of_isWhole {cs : List Char} (h : IsWhole cs) : ∀ c ∈ cs, c.isDigit := by
  cases h with
  | zero => exact List.all_iff_forall_prop.1 (by decide)
  | digits _ h => exact h.2

theorem isNumeric_of_isFraction {cs : List Char} (h : IsFraction cs) : ∀ c ∈ cs, IsNumeric c := by
  cases h with
  | none =>
    intro c hc
    cases hc
  | some h =>
    intro c hc
    rcases List.mem_cons.1 hc with rfl | hc
    · exact .inr (by decide)
    · exact .inl (h.2 c hc)

theorem isNumeric_of_isExponent {cs : List Char} (h : IsExponent cs) : ∀ c ∈ cs, IsNumeric c := by
  cases h with
  | none =>
    intro c hc
    cases hc
  | some hletter hsign h =>
    have hletters : ∀ d ∈ ['e', 'E'], IsNumeric d := by simp [IsNumeric]
    have hsigns : ∀ ds ∈ [[], ['+'], ['-']], ∀ d ∈ ds, IsNumeric d := by simp [IsNumeric]
    intro c hc
    rcases List.mem_append.1 hc with hc | hc
    · rcases List.mem_cons.1 hc with rfl | hc
      · exact hletters _ hletter
      · exact hsigns _ hsign c hc
    · exact .inl (h.2 c hc)

/-- The point tells whether there is a fraction. -/
theorem fraction_inj {fraction fraction' exponent exponent' : List Char}
    (hf : IsFraction fraction) (hf' : IsFraction fraction') (he : IsExponent exponent)
    (he' : IsExponent exponent') (h : fraction ++ exponent = fraction' ++ exponent') :
    fraction = fraction' ∧ exponent = exponent' := by
  have hpoint : ∀ cs ds : List Char, IsExponent cs → cs ≠ '.' :: ds := by
    intro cs ds hcs heq
    cases hcs with
    | none => cases heq
    | some hletter =>
      have hall : ∀ d ∈ ['e', 'E'], d ≠ '.' := List.all_iff_forall_prop.1 (by decide)
      exact hall _ hletter (List.cons.inj heq).1
  cases hf with
  | none =>
    cases hf' with
    | none => exact ⟨rfl, h⟩
    | some _ => exact absurd h (hpoint _ _ he)
  | some hds =>
    cases hf' with
    | none => exact absurd h.symm (hpoint _ _ he')
    | some hds' =>
      obtain ⟨hds, hexponent⟩ := append_inj_of_stops hds.2 hds'.2 (stops_of_exponent he)
        (stops_of_exponent he') (List.cons.inj h).2
      exact ⟨congrArg _ hds, hexponent⟩

namespace Numeral

/-- The minus sign in front of a negative number. -/
def sign (n : Numeral) : List Char := if n.isNegative then ['-'] else []

theorem chars_eq (n : Numeral) :
    n.chars = n.sign ++ (n.whole ++ (n.fraction ++ n.exponent)) := by
  simp [chars, sign]

theorem stops_whole (n : Numeral) (rest : List Char) : Stops (· = '-') (n.whole ++ rest) := by
  obtain ⟨d, ds, hd, hdigit⟩ := exists_digit_of_isWhole n.isWhole
  intro c hc
  rw [hd] at hc
  cases hc
  intro heq
  rw [heq] at hdigit
  exact absurd hdigit (by decide)

/-- Two numbers that are written the same are the same. -/
theorem chars_injective {m n : Numeral} (h : m.chars = n.chars) : m = n := by
  have hminus : ∀ k : Numeral, ∀ c ∈ k.sign, c = '-' := by
    intro k c hc
    unfold sign at hc
    split at hc
    · simpa using hc
    · cases hc
  rw [chars_eq, chars_eq] at h
  obtain ⟨hsign, h⟩ := append_inj_of_stops (hminus m) (hminus n) (m.stops_whole _)
    (n.stops_whole _) h
  obtain ⟨hwhole, h⟩ := append_inj_of_stops (isDigit_of_isWhole m.isWhole)
    (isDigit_of_isWhole n.isWhole) (stops_of_fraction m.isFraction m.isExponent)
    (stops_of_fraction n.isFraction n.isExponent) h
  obtain ⟨hfraction, hexponent⟩ := fraction_inj m.isFraction n.isFraction m.isExponent
    n.isExponent h
  have hnegative : m.isNegative = n.isNegative := by
    unfold sign at hsign
    cases hm : m.isNegative <;> cases hn : n.isNegative <;> simp [hm, hn] at hsign ⊢
  cases m
  cases n
  simp_all

theorem isNumeric_of_mem_chars (n : Numeral) : ∀ c ∈ n.chars, IsNumeric c := by
  intro c hc
  simp only [chars_eq, List.mem_append] at hc
  rcases hc with hc | hc | hc | hc
  · unfold sign at hc
    split at hc
    · exact .inr (by simp_all)
    · cases hc
  · exact .inl (isDigit_of_isWhole n.isWhole c hc)
  · exact isNumeric_of_isFraction n.isFraction c hc
  · exact isNumeric_of_isExponent n.isExponent c hc

end Numeral

/-! ## Lexemes -/

def Lexeme.IsNumber : Lexeme → Prop
  | .number _ => True
  | _ => False

/-- Only a number has no token of its own. -/
theorem Lexeme.exists_token_or_number (l : Lexeme) :
    (∃ token, l.token? = some token) ∨ ∃ n, l = .number n := by
  cases l with
  | number n => exact .inr ⟨n, rfl⟩
  | mark | null | bool | text => exact .inl ⟨_, rfl⟩

theorem Lexeme.eq_of_token?_eq {l l' : Lexeme} {token : Token} (h : l.token? = some token)
    (h' : l'.token? = some token) : l = l' := by
  cases l <;> cases h <;> cases l' <;> cases h' <;> rfl

theorem Lexeme.token_ne_number {l : Lexeme} {m : Number} : l.token? ≠ some (.number m) := by
  cases l <;> simp [token?]

/-- No gap reaches into a lexeme. -/
theorem LexemeSpelling.stops {l : Lexeme} {spelled : List Char} (h : LexemeSpelling l spelled)
    (rest : List Char) : spelled ≠ [] ∧ Stops (· ∈ [' ', '\t', '\r', '\n']) (spelled ++ rest) := by
  have hfirst : ∃ c cs, spelled = c :: cs ∧ ¬ isBlank c := by
    rcases l.exists_token_or_number with ⟨token, htoken⟩ | ⟨n, rfl⟩
    · obtain ⟨c, cs, _, hspelled, hblank, _⟩ := scanToken?_append h htoken 0 []
      exact ⟨c, cs, hspelled, by simp [hblank]⟩
    · cases h with
      | number n =>
        obtain ⟨c, cs, hchars, hstart⟩ := n.exists_chars_eq
        exact ⟨c, cs, hchars, by simp [(scanToken?_number hstart 0 []).1]⟩
  obtain ⟨c, cs, rfl, hblank⟩ := hfirst
  refine ⟨List.cons_ne_nil c cs, ?_⟩
  intro d hd hmem
  have hblanks : ∀ b ∈ [' ', '\t', '\r', '\n'], isBlank b := List.all_iff_forall_prop.1 (by decide)
  cases hd
  exact hblank (hblanks _ hmem)

/-- What is no number starts with a character that stands in no number. -/
theorem LexemeSpelling.stops_of_not_isNumber {l : Lexeme} {spelled : List Char}
    (h : LexemeSpelling l spelled) (hl : ¬ l.IsNumber) (rest : List Char) :
    Stops IsNumeric (spelled ++ rest) := by
  intro c hc
  cases h with
  | mark m =>
    cases hc
    cases m <;> decide
  | number n => exact absurd trivial hl
  | null | true | false | text =>
    cases hc
    decide

/-- A text that is no number's is not a number's either. -/
theorem LexemeSpelling.ne_chars {l : Lexeme} {spelled : List Char} (h : LexemeSpelling l spelled)
    {token : Token} (htoken : l.token? = some token) (n : Numeral) (rest rest' : List Char) :
    spelled ++ rest ≠ n.chars ++ rest' := by
  intro heq
  obtain ⟨c, cs, stop, rfl, -, hscan⟩ := scanToken?_append h htoken 0 rest
  obtain ⟨d, ds, hchars, hstart⟩ := n.exists_chars_eq
  rw [hchars] at heq
  obtain ⟨rfl, -⟩ := List.cons.inj heq
  -- where a number starts, no other token is scanned
  rcases (scanToken?_number hstart 0 (cs ++ rest)).2.2 with ⟨fault, hfault⟩ | ⟨m, _, _, hm⟩
  · rw [hscan] at hfault
    cases hfault
  · rw [hscan] at hm
    cases hm
    exact Lexeme.token_ne_number htoken

/-- The first lexeme of a text, and what follows it, can be seen from the text. -/
theorem LexemeSpelling.unique {l l' : Lexeme} {spelled spelled' rest rest' : List Char}
    (h : LexemeSpelling l spelled) (h' : LexemeSpelling l' spelled')
    (hrest : l.IsNumber → Stops IsNumeric rest) (hrest' : l'.IsNumber → Stops IsNumeric rest')
    (heq : spelled ++ rest = spelled' ++ rest') : l = l' ∧ rest = rest' := by
  rcases l.exists_token_or_number with ⟨token, htoken⟩ | ⟨n, rfl⟩
  · rcases l'.exists_token_or_number with ⟨token', htoken'⟩ | ⟨n', rfl⟩
    · -- scanning the text gives the token of both
      obtain ⟨c, cs, stop, rfl, -, hscan⟩ := scanToken?_append h htoken 0 rest
      obtain ⟨c', cs', stop', rfl, -, hscan'⟩ := scanToken?_append h' htoken' 0 rest'
      obtain ⟨rfl, htail⟩ := List.cons.inj heq
      have htail' : cs ++ rest = cs' ++ rest' := htail
      rw [htail', hscan'] at hscan
      cases hscan
      exact ⟨Lexeme.eq_of_token?_eq htoken htoken', rfl⟩
    · cases h'
      exact absurd heq (h.ne_chars htoken n' rest rest')
  · cases h
    rcases l'.exists_token_or_number with ⟨token', htoken'⟩ | ⟨n', rfl⟩
    · exact absurd heq.symm (h'.ne_chars htoken' n rest' rest)
    · -- both numbers go on to the first character that stands in none
      cases h'
      obtain ⟨hchars, hrests⟩ := append_inj_of_stops n.isNumeric_of_mem_chars
        n'.isNumeric_of_mem_chars (hrest trivial) (hrest' trivial) heq
      exact ⟨congrArg _ (Numeral.chars_injective hchars), hrests⟩

/-! ## Lists of lexemes -/

/-- No number follows a number. -/
def NumbersApart (ls : List Lexeme) : Prop := ls.IsChain fun l l' => l.IsNumber → ¬ l'.IsNumber

theorem stops_of_spelling {ls : List Lexeme} {cs : List Char} (h : Spelling ls cs)
    (hls : ∀ l ∈ ls.head?, ¬ l.IsNumber) : Stops IsNumeric cs := by
  have hgap : ∀ gap rest : List Char, IsGap gap → Stops IsNumeric rest →
      Stops IsNumeric (gap ++ rest) := by
    intro gap rest hgap hrest
    cases gap with
    | nil => exact hrest
    | cons c gap =>
      intro d hd
      have hblanks : ∀ b ∈ [' ', '\t', '\r', '\n'], ¬ IsNumeric b :=
        List.all_iff_forall_prop.1 (by decide)
      cases hd
      exact hblanks c (hgap c List.mem_cons_self)
  cases h with
  | nil h =>
    rw [← List.append_nil cs]
    exact hgap _ _ h (stops_nil _)
  | cons h hl _ => exact hgap _ _ h (hl.stops_of_not_isNumber (hls _ rfl) _)

/-- A text is the spelling of one list of lexemes, if numbers are apart in it. -/
theorem Spelling.unique {ls ls' : List Lexeme} {cs : List Char} (h : Spelling ls cs)
    (h' : Spelling ls' cs) (hls : NumbersApart ls) (hls' : NumbersApart ls') : ls = ls' := by
  induction h generalizing ls' with
  | @nil gap hgap =>
    generalize heq : gap = text at h'
    cases h' with
    | nil _ => rfl
    | cons hgap' hl' _ =>
      rw [← List.append_nil gap] at heq
      obtain ⟨hne, hstops⟩ := hl'.stops _
      obtain ⟨-, hempty⟩ := append_inj_of_stops hgap hgap' (stops_nil _) hstops heq
      exact absurd (List.append_eq_nil_iff.1 hempty.symm).1 hne
  | @cons l ls gap spelled rest hgap hl hrest ih =>
    generalize heq : gap ++ (spelled ++ rest) = text at h'
    obtain ⟨hne, hstops⟩ := hl.stops rest
    cases h' with
    | nil hgap' =>
      rw [← List.append_nil text] at heq
      obtain ⟨-, hempty⟩ := append_inj_of_stops hgap hgap' hstops (stops_nil _) heq
      exact absurd (List.append_eq_nil_iff.1 hempty).1 hne
    | cons hgap' hl' hrest' =>
      obtain ⟨hhead, htail⟩ := List.isChain_cons.1 hls
      obtain ⟨hhead', htail'⟩ := List.isChain_cons.1 hls'
      obtain ⟨-, hspelled⟩ := append_inj_of_stops hgap hgap' hstops (hl'.stops _).2 heq
      -- a number ends where the next lexeme starts, which is none
      obtain ⟨rfl, rfl⟩ := hl.unique hl'
        (fun hnumber => stops_of_spelling hrest fun m hm => hhead m hm hnumber)
        (fun hnumber => stops_of_spelling hrest' fun m hm => hhead' m hm hnumber) hspelled
      rw [ih hrest' htail htail']

/-! ## Values -/

/-- Lexemes that may follow a value: none of them is a number in front. -/
def FollowsValue (ls : List Lexeme) : Prop := NumbersApart ls ∧ ∀ l ∈ ls.head?, ¬ l.IsNumber

theorem followsValue_mark {m : Mark} {ls : List Lexeme} (h : NumbersApart ls) :
    FollowsValue (.mark m :: ls) := by
  constructor
  · exact List.isChain_cons.2 ⟨fun _ _ hmark => hmark.elim, h⟩
  · intro l hl
    cases hl
    exact id

theorem numbersApart_separator (isFirst : Bool) {ls : List Lexeme} (h : NumbersApart ls) :
    NumbersApart (separator isFirst ++ ls) := by
  cases isFirst with
  | true => exact h
  | false => exact (followsValue_mark h).1

/-- Items after the first have a comma in front. -/
theorem followsValue_itemLexemes (vs : List Value) {ls : List Lexeme} (h : FollowsValue ls)
    (hapart : NumbersApart (itemLexemes false vs ++ ls)) :
    FollowsValue (itemLexemes false vs ++ ls) := by
  cases vs with
  | nil => exact h
  | cons v vs =>
    refine ⟨hapart, ?_⟩
    intro l hl
    cases hl
    exact id

theorem followsValue_fieldLexemes (fields : List (String × Value)) {ls : List Lexeme}
    (h : FollowsValue ls) (hapart : NumbersApart (fieldLexemes false fields ++ ls)) :
    FollowsValue (fieldLexemes false fields ++ ls) := by
  cases fields with
  | nil => exact h
  | cons field fields =>
    refine ⟨hapart, ?_⟩
    intro l hl
    cases hl
    exact id

mutual

/-- In the lexemes of a value numbers are apart. -/
theorem numbersApart_lexemes (v : Value) {ls : List Lexeme} (h : FollowsValue ls) :
    NumbersApart (v.lexemes ++ ls) := by
  match v with
  | .null => exact List.isChain_cons.2 ⟨fun _ _ hnull => hnull.elim, h.1⟩
  | .bool b => exact List.isChain_cons.2 ⟨fun _ _ hbool => hbool.elim, h.1⟩
  | .number n => exact List.isChain_cons.2 ⟨fun l hl _ => h.2 l hl, h.1⟩
  | .text s => exact List.isChain_cons.2 ⟨fun _ _ htext => htext.elim, h.1⟩
  | .list items =>
    have hitems := numbersApart_itemLexemes true items (followsValue_mark (m := .closeList) h.1)
    rw [Value.lexemes, List.cons_append, List.append_assoc]
    exact (followsValue_mark hitems).1
  | .object fields =>
    have hfields :=
      numbersApart_fieldLexemes true fields (followsValue_mark (m := .closeObject) h.1)
    rw [Value.lexemes, List.cons_append, List.append_assoc]
    exact (followsValue_mark hfields).1

theorem numbersApart_itemLexemes (isFirst : Bool) (vs : List Value) {ls : List Lexeme}
    (h : FollowsValue ls) : NumbersApart (itemLexemes isFirst vs ++ ls) := by
  match vs with
  | [] => exact h.1
  | v :: vs =>
    have hrest := followsValue_itemLexemes vs h (numbersApart_itemLexemes false vs h)
    rw [itemLexemes, List.append_assoc, List.append_assoc]
    exact numbersApart_separator isFirst (numbersApart_lexemes v hrest)

theorem numbersApart_fieldLexemes (isFirst : Bool) (fields : List (String × Value))
    {ls : List Lexeme} (h : FollowsValue ls) :
    NumbersApart (fieldLexemes isFirst fields ++ ls) := by
  match fields with
  | [] => exact h.1
  | (name, v) :: fields =>
    have hrest := followsValue_fieldLexemes fields h (numbersApart_fieldLexemes false fields h)
    have hvalue := (followsValue_mark (m := .colon) (numbersApart_lexemes v hrest)).1
    rw [fieldLexemes, List.append_assoc, List.cons_append, List.cons_append, List.append_assoc]
    exact numbersApart_separator isFirst (List.isChain_cons.2 ⟨fun _ _ htext => htext.elim, hvalue⟩)

end

/-- No value starts with a mark that closes a list. -/
theorem exists_lexemes_eq_cons (v : Value) :
    ∃ l ls, v.lexemes = l :: ls ∧ l ≠ .mark .closeList := by
  cases v <;> exact ⟨_, _, rfl, by simp⟩

theorem closeList_ne_itemLexemes (isFirst : Bool) (v : Value) (vs : List Value)
    (ls ms : List Lexeme) : .mark .closeList :: ls ≠ itemLexemes isFirst (v :: vs) ++ ms := by
  intro h
  obtain ⟨l, rest, hv, hne⟩ := exists_lexemes_eq_cons v
  rw [itemLexemes, hv] at h
  cases isFirst with
  | true => exact hne (List.cons.inj h).1.symm
  | false => simp [separator] at h

mutual

/-- The lexemes of a value show where it ends. -/
theorem lexemes_inj (v w : Value) {ls ms : List Lexeme} (h : v.lexemes ++ ls = w.lexemes ++ ms) :
    v = w ∧ ls = ms := by
  match v, w with
  | .list items, .list items' =>
    simp only [Value.lexemes, List.cons_append, List.append_assoc, List.cons.injEq, true_and,
      List.nil_append] at h
    obtain ⟨rfl, rfl⟩ := itemLexemes_inj true items items' h
    exact ⟨rfl, rfl⟩
  | .object fields, .object fields' =>
    simp only [Value.lexemes, List.cons_append, List.append_assoc, List.cons.injEq, true_and,
      List.nil_append] at h
    obtain ⟨rfl, rfl⟩ := fieldLexemes_inj true fields fields' h
    exact ⟨rfl, rfl⟩
  -- any other value is a lexeme that no other value starts with
  | .null, w =>
    cases w with
    | null => exact ⟨rfl, (List.cons.inj h).2⟩
    | _ => simp [Value.lexemes] at h
  | .bool b, w =>
    cases w with
    | bool b' =>
      obtain ⟨hb, hls⟩ := List.cons.inj h
      exact ⟨congrArg _ (Lexeme.bool.inj hb), hls⟩
    | _ => simp [Value.lexemes] at h
  | .number n, w =>
    cases w with
    | number n' =>
      obtain ⟨hn, hls⟩ := List.cons.inj h
      exact ⟨congrArg _ (Lexeme.number.inj hn), hls⟩
    | _ => simp [Value.lexemes] at h
  | .text s, w =>
    cases w with
    | text s' =>
      obtain ⟨hs, hls⟩ := List.cons.inj h
      exact ⟨congrArg _ (Lexeme.text.inj hs), hls⟩
    | _ => simp [Value.lexemes] at h
  | .list _, .null | .list _, .bool _ | .list _, .number _ | .list _, .text _
  | .list _, .object _ =>
    simp [Value.lexemes] at h
  | .object _, .null | .object _, .bool _ | .object _, .number _ | .object _, .text _
  | .object _, .list _ =>
    simp [Value.lexemes] at h

theorem itemLexemes_inj (isFirst : Bool) (vs ws : List Value) {ls ms : List Lexeme}
    (h : itemLexemes isFirst vs ++ .mark .closeList :: ls
      = itemLexemes isFirst ws ++ .mark .closeList :: ms) : vs = ws ∧ ls = ms := by
  match vs, ws with
  | [], [] => exact ⟨rfl, (List.cons.inj h).2⟩
  | [], w :: ws => exact absurd h (closeList_ne_itemLexemes isFirst w ws _ _)
  | v :: vs, [] => exact absurd h.symm (closeList_ne_itemLexemes isFirst v vs _ _)
  | v :: vs, w :: ws =>
    simp only [itemLexemes, List.append_assoc, List.append_cancel_left_eq] at h
    obtain ⟨rfl, hrest⟩ := lexemes_inj v w h
    obtain ⟨rfl, hls⟩ := itemLexemes_inj false vs ws hrest
    exact ⟨rfl, hls⟩

theorem fieldLexemes_inj (isFirst : Bool) (fields fields' : List (String × Value))
    {ls ms : List Lexeme}
    (h : fieldLexemes isFirst fields ++ .mark .closeObject :: ls
      = fieldLexemes isFirst fields' ++ .mark .closeObject :: ms) : fields = fields' ∧ ls = ms := by
  match fields, fields' with
  | [], [] => exact ⟨rfl, (List.cons.inj h).2⟩
  | [], (name, w) :: ws => cases isFirst <;> simp [fieldLexemes, separator] at h
  | (name, v) :: vs, [] => cases isFirst <;> simp [fieldLexemes, separator] at h
  | (name, v) :: vs, (name', w) :: ws =>
    simp only [fieldLexemes, List.append_assoc, List.append_cancel_left_eq, List.cons_append,
      List.cons.injEq, Lexeme.text.injEq, true_and] at h
    obtain ⟨rfl, hvalue⟩ := h
    obtain ⟨rfl, hrest⟩ := lexemes_inj v w hvalue
    obtain ⟨rfl, hls⟩ := fieldLexemes_inj false vs ws hrest
    exact ⟨rfl, hls⟩

end

/-- A text spells one value at most. -/
theorem Value.SpelledAs.unique {v w : Value} {text : String} (hv : v.SpelledAs text)
    (hw : w.SpelledAs text) : v = w := by
  have hapart : ∀ u : Value, NumbersApart u.lexemes := by
    intro u
    have hnil : FollowsValue [] := ⟨List.isChain_nil, nofun⟩
    have h := numbersApart_lexemes u hnil
    rwa [List.append_nil] at h
  have hlexemes : v.lexemes = w.lexemes := Spelling.unique hv hw (hapart v) (hapart w)
  have hnil : v.lexemes ++ [] = w.lexemes ++ [] := by rw [hlexemes]
  exact (lexemes_inj v w hnil).1

end ClassAtlas.Manifest

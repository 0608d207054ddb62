import ClassAtlas.Proofs.Manifest.Delimiting
import ClassAtlas.Proofs.Manifest.SharingTapes

/-! # Readers fail in time

    A reader that fails has taken tokens that end by themselves, and is then at
    fault because of the next one.  What it reports of that token is seen from
    the bytes before the place that it reports and the byte after it: it fails
    alike with every token that looks the same (`Prompt`).  This is so for the
    readers of single values, and it is kept by those that are put together.
-/

namespace ClassAtlas.Manifest

open Tape

variable {α β : Type} {place : Nat} {t t' : Tape} {fault : Fault}

/-! ## What is seen of a token -/

namespace Tape

/-- The token that comes next. -/
def firstToken? : Tape → Option Token
  | .token _ _ value _ => some value
  | _ => none

theorem firstToken?_ne {value : Token} (h : ∀ start stop rest, t ≠ .token start stop value rest) :
    t.firstToken? ≠ some value := by
  intro hvalue
  cases t with
  | token start stop value rest =>
    cases hvalue
    exact h start stop rest rfl
  | broken | stray | finish => cases hvalue

/-- The mark that comes next. -/
def firstMark? : Tape → Option Mark
  | .token _ _ value _ => value.mark?
  | _ => none

/-- Whether a quoted text comes next, be it unfinished. -/
def isText : Tape → Bool
  | .token _ _ value _ => value.isText
  | .broken _ isText _ => isText
  | _ => false

def isFinish : Tape → Bool
  | .finish _ => true
  | _ => false

theorem firstMark?_eq_some_iff {m : Mark} :
    t.firstMark? = some m ↔ ∃ start stop rest, t = .token start stop (.mark m) rest := by
  constructor
  · intro h
    cases t with
    | token start stop value rest =>
      cases value with
      | mark m' =>
        cases h
        exact ⟨start, stop, rest, rfl⟩
      | null | bool | number | text => cases h
    | broken | stray | finish => cases h
  · rintro ⟨start, stop, rest, rfl⟩
    rfl

theorem isText_eq_false (htext : ∀ start stop s rest, t ≠ .token start stop (.text s) rest)
    (hbroken : ∀ start fault, t ≠ .broken start true fault) : t.isText = false := by
  cases t with
  | token start stop value rest =>
    cases value with
    | text s => exact absurd rfl (htext start stop s rest)
    | mark | null | bool | number => rfl
  | broken start isText fault =>
    cases isText with
    | true => exact absurd rfl (hbroken start fault)
    | false => rfl
  | stray | finish => rfl

theorem opensItem_iff : t.opensItem ↔ t.isFinish = false ∧ t.firstMark? ≠ some .closeList := by
  cases t with
  | token start stop value rest =>
    cases value <;> simp [opensItem, isFinish, firstMark?, Token.mark?]
  | broken | stray | finish => simp [opensItem, isFinish, firstMark?]

namespace Unfinished

variable {start : Nat} {isText : Bool}

theorem firstMark?_eq (h : Unfinished place start isText t) : t.firstMark? = none := by
  cases h with
  | token hmark htext hlt => exact hmark
  | broken hlt => rfl

theorem isText_eq (h : Unfinished place start isText t) : t.isText = isText := by
  cases h with
  | token hmark htext hlt => exact htext
  | broken hlt => rfl

theorem start_eq (h : Unfinished place start isText t) : t.start = start := by
  cases h <;> rfl

theorem isFinish_eq (h : Unfinished place start isText t) : t.isFinish = false := by
  cases h <;> rfl

end Unfinished

theorem peeked_eq (h : t.isFinish = false) : t.peeked = t.start + 1 := by
  cases t with
  | finish offset => cases h
  | token | broken | stray => rfl

namespace Looks

theorem firstMark?_eq (h : Looks place t t') : t'.firstMark? = t.firstMark? := by
  cases h with
  | token => rfl
  | broken => rfl
  | stray => rfl
  | cut h h' => rw [h.firstMark?_eq, h'.firstMark?_eq]

theorem isText_eq (h : Looks place t t') : t'.isText = t.isText := by
  cases h with
  | token => rfl
  | broken => rfl
  | stray => rfl
  | cut h h' => rw [h.isText_eq, h'.isText_eq]

theorem start_eq (h : Looks place t t') : t'.start = t.start := by
  cases h with
  | token => rfl
  | broken => rfl
  | stray => rfl
  | cut h h' => rw [h.start_eq, h'.start_eq]

theorem firstMark?_ne {m : Mark} (h : Looks place t t')
    (hne : ∀ start stop rest, t ≠ .token start stop (.mark m) rest) : t'.firstMark? ≠ some m := by
  rw [h.firstMark?_eq]
  intro hm
  obtain ⟨start, stop, rest, rfl⟩ := firstMark?_eq_some_iff.1 hm
  exact hne start stop rest rfl

/-- The end of a text is not alike to anything. -/
theorem isFinish_eq (h : Looks place t t') : t'.isFinish = false := by
  cases h with
  | token => rfl
  | broken => rfl
  | stray => rfl
  | cut h h' => exact h'.isFinish_eq

theorem opensItem (h : Looks place t t') (ht : t.opensItem) : t'.opensItem := by
  rw [opensItem_iff] at ht ⊢
  rw [h.firstMark?_eq]
  exact ⟨h.isFinish_eq, ht.2⟩

theorem peeked_eq (h : Looks place t t') : t'.peeked = t.peeked := by
  rw [Tape.peeked_eq h.isFinish_eq, Tape.peeked_eq h.symm.isFinish_eq, h.start_eq]

/-- Tapes that look the same do so behind the same tokens. -/
theorem after (h : Looks place t t') (ts : List PlacedToken) :
    Looks place (t.after ts) (t'.after ts) := by
  cases ts with
  | nil => exact h
  | cons p ts => exact .token

end Looks

end Tape

/-! ## Failing in time -/

/-- The run fails at a token of the tape, and it fails alike wherever the tokens
    before are the same and that one looks the same. -/
def FailsAt (run : Tape → Except Fault β) (t : Tape) (fault : Fault) : Prop :=
  ∃ ts u, t = u.after ts ∧ u.Points fault.offset
    ∧ ∀ u', Looks fault.offset u u' → run (u'.after ts) = .error fault

/-- The run is never at fault because of what comes after the place that it reports. -/
def Prompt (run : Tape → Except Fault β) : Prop :=
  ∀ ⦃t fault⦄, run t = .error fault → FailsAt run t fault

def Reader.FailsInTime (reader : Reader α) : Prop := Prompt reader.run

section

variable {run : Tape → Except Fault β}

/-- A run that goes on with another one fails where that one does. -/
theorem FailsAt.after {part : Tape → Except Fault α} (h : FailsAt part t fault)
    (front : List PlacedToken)
    (hrun : ∀ t', Looks fault.offset t t' → part t' = .error fault →
      run (t'.after front) = .error fault) : FailsAt run (t.after front) fault := by
  obtain ⟨ts, u, rfl, hpoints, hlooks⟩ := h
  refine ⟨front ++ ts, u, (after_append u front ts).symm, hpoints, fun u' hu' => ?_⟩
  rw [after_append]
  exact hrun _ (hu'.after ts) (hlooks u' hu')

theorem FailsAt.of_part {part : Tape → Except Fault α} (h : FailsAt part t fault)
    (hrun : ∀ t', part t' = .error fault → run t' = .error fault) : FailsAt run t fault :=
  h.after [] fun t' _ => hrun t'

theorem FailsAt.behind {start stop : Nat} {value : Token} {rest : Tape}
    (h : FailsAt (fun rest => run (.token start stop value rest)) rest fault) :
    FailsAt run (.token start stop value rest) fault :=
  h.after [⟨start, stop, value⟩] fun _ _ hrun => hrun

/-- Nothing is alike to the end of a text. -/
theorem failsAt_finish {cause : Cause} {offset : Nat} :
    FailsAt run (.finish offset) ⟨cause, offset⟩ :=
  ⟨[], .finish offset, rfl, .start, fun _ hlooks => nomatch hlooks.symm.isFinish_eq⟩

/-- A fault of a token that was read to its end. -/
theorem failsAt_stop {cause : Cause} {start stop : Nat} {value : Token} {rest : Tape}
    (h : ∀ rest, run (.token start stop value rest) = .error ⟨cause, stop⟩) :
    FailsAt run (.token start stop value rest) ⟨cause, stop⟩ := by
  refine ⟨[], _, rfl, .stop, fun u hlooks => ?_⟩
  cases hlooks with
  | token => exact h _
  | cut hu _ =>
    cases hu with
    | token _ _ hlt => exact absurd hlt (Nat.lt_irrefl _)

/-- A mark is read as soon as it is seen. -/
theorem failsAt_mark {start stop : Nat} {m : Mark} {rest : Tape}
    (h : ∀ rest, run (.token start stop (.mark m) rest) = .error fault)
    (hpoints : Points (.token start stop (.mark m) rest) fault.offset) :
    FailsAt run (.token start stop (.mark m) rest) fault := by
  refine ⟨[], _, rfl, hpoints, fun u hlooks => ?_⟩
  cases hlooks with
  | token => exact h _
  | cut hu _ => exact nomatch hu.firstMark?_eq

/-- The fault of a token that cannot be finished. -/
theorem failsAt_broken {start : Nat} {isText : Bool}
    (h : run (.broken start isText fault) = .error fault) :
    FailsAt run (.broken start isText fault) fault := by
  refine ⟨[], _, rfl, .fault, fun u hlooks => ?_⟩
  cases hlooks with
  | broken => exact h
  | cut hu _ =>
    cases hu with
    | broken hlt => exact absurd hlt (Nat.lt_irrefl _)

/-- A fault that is seen from the first byte of a token. -/
theorem failsAt_peeked {cause : Cause}
    (h : ∀ u, Looks t.peeked t u → run u = .error ⟨cause, u.peeked⟩) :
    FailsAt run t ⟨cause, t.peeked⟩ := by
  refine ⟨[], t, rfl, .peeked, fun u hlooks => ?_⟩
  rw [after_nil, h u hlooks, hlooks.peeked_eq]

/-- A fault that is reported where a token starts. -/
theorem failsAt_start {cause : Cause}
    (h : ∀ u, Looks t.start t u → run u = .error ⟨cause, u.start⟩) :
    FailsAt run t ⟨cause, t.start⟩ := by
  refine ⟨[], t, rfl, .start, fun u hlooks => ?_⟩
  rw [after_nil, h u hlooks, hlooks.start_eq]

/-! ## Values of another kind -/

theorem wrongKind_token (expected : String) {start stop : Nat} {value : Token} (rest rest' : Tape) :
    wrongKind expected (.token start stop value rest)
      = wrongKind expected (.token start stop value rest') := by
  cases value with
  | mark m => cases m <;> rfl
  | null | bool | number | text => rfl

/-- What is of another kind is reported where it starts, if it is a list or an
    object, and else where it ends. -/
theorem failsAt_wrongKind {expected : String}
    (h : ∀ u, u.firstToken? = t.firstToken? → run u = .error (wrongKind expected u)) :
    FailsAt run t (wrongKind expected t) := by
  cases t with
  | token start stop value rest =>
    have hrun : ∀ rest', run (.token start stop value rest')
        = .error (wrongKind expected (.token start stop value rest)) := by
      intro rest'
      rw [h (.token start stop value rest') rfl, wrongKind_token expected rest' rest]
    cases value with
    | mark m =>
      cases m with
      | openObject | openList => exact failsAt_mark hrun .start
      | closeObject | closeList | comma | colon => exact failsAt_mark hrun .peeked
    | null | bool | number | text => exact failsAt_stop hrun
  | broken start isText fault => exact failsAt_broken (h _ rfl)
  | stray start =>
    refine failsAt_peeked fun u hlooks => ?_
    cases hlooks with
    | stray => exact h _ rfl
    | cut hu _ => cases hu
  | finish offset => exact failsAt_finish

end

/-! ## Between values -/

theorem nextItem_gap (hclose : t.firstMark? ≠ some .closeList) (hcomma : t.firstMark? ≠ some .comma)
    (hfinish : t.isFinish = false) :
    nextItem false t = .error ⟨.expectedListGap, t.peeked⟩ := by
  unfold nextItem
  split
  · cases hfinish
  · exact absurd rfl hclose
  · simp only [Bool.false_eq_true, if_false]
    split
    · exact absurd rfl hcomma
    · rfl

theorem nextItem_prompt (isFirst : Bool) : Prompt (nextItem isFirst) := by
  intro t fault h
  unfold nextItem at h
  split at h
  · cases h
    exact failsAt_finish
  · cases h
  · next hclose =>
    split at h
    · cases h
    · next hfirst =>
      obtain rfl : isFirst = false := by simpa using hfirst
      split at h
      · split at h
        · cases h
          exact (failsAt_mark (fun _ => rfl) .peeked).behind
        · cases h
          exact failsAt_finish.behind
        · cases h
      · next hcomma =>
        cases h
        exact failsAt_peeked fun u hlooks =>
          nextItem_gap (hlooks.firstMark?_ne hclose) (hlooks.firstMark?_ne hcomma)
            hlooks.isFinish_eq

theorem takeKey_other (h : t.isText = false) : takeKey t = .error ⟨.keyIsNoText, t.peeked⟩ := by
  unfold takeKey
  split
  · cases h
  · cases h
  · rfl

theorem takeKey_prompt : Prompt takeKey := by
  intro t fault h
  unfold takeKey at h
  split at h
  · cases h
  · cases h
    exact failsAt_broken rfl
  · next htext hbroken =>
    cases h
    refine failsAt_peeked fun u hlooks => takeKey_other ?_
    rw [hlooks.isText_eq]
    exact isText_eq_false htext hbroken

theorem nextKey_first (hclose : t.firstMark? ≠ some .closeObject) (hfinish : t.isFinish = false) :
    nextKey true t = takeKey t := by
  unfold nextKey
  split
  · cases hfinish
  · exact absurd rfl hclose
  · rfl

theorem nextKey_comma (hclose : t.firstMark? ≠ some .closeObject) (hfinish : t.isFinish = false)
    (start stop : Nat) : nextKey false (.token start stop (.mark .comma) t) = takeKey t := by
  simp only [nextKey, Bool.false_eq_true, if_false]
  split
  · exact absurd rfl hclose
  · cases hfinish
  · rfl

theorem nextKey_gap (hclose : t.firstMark? ≠ some .closeObject)
    (hcomma : t.firstMark? ≠ some .comma) (hfinish : t.isFinish = false) :
    nextKey false t = .error ⟨.expectedObjectGap, t.peeked⟩ := by
  unfold nextKey
  split
  · cases hfinish
  · exact absurd rfl hclose
  · simp only [Bool.false_eq_true, if_false]
    split
    · exact absurd rfl hcomma
    · rfl

theorem nextKey_prompt (isFirst : Bool) : Prompt (nextKey isFirst) := by
  intro t fault h
  unfold nextKey at h
  split at h
  · cases h
    exact failsAt_finish
  · cases h
  · next hclose =>
    split at h
    · next hfirst =>
      subst hfirst
      refine (takeKey_prompt h).after [] fun u hlooks hu => ?_
      rw [after_nil, nextKey_first (hlooks.firstMark?_ne hclose) hlooks.isFinish_eq, hu]
    · next hfirst =>
      obtain rfl : isFirst = false := by simpa using hfirst
      split at h
      · next start stop rest _ =>
        split at h
        · cases h
          exact (failsAt_mark (fun _ => rfl) .peeked).behind
        · cases h
          exact failsAt_finish.behind
        · next hclose hfinish =>
          refine (takeKey_prompt h).after [⟨start, stop, .mark .comma⟩] fun u hlooks hu => ?_
          rw [after_cons, after_nil, nextKey_comma (hlooks.firstMark?_ne hclose) hlooks.isFinish_eq,
            hu]
      · next hcomma =>
        cases h
        exact failsAt_peeked fun u hlooks =>
          nextKey_gap (hlooks.firstMark?_ne hclose) (hlooks.firstMark?_ne hcomma) hlooks.isFinish_eq

theorem skipColon_other (hcolon : t.firstMark? ≠ some .colon) (hfinish : t.isFinish = false) :
    skipColon t = .error ⟨.expectedColon, t.peeked⟩ := by
  unfold skipColon
  split
  · exact absurd rfl hcolon
  · cases hfinish
  · rfl

theorem skipColon_prompt : Prompt skipColon := by
  intro t fault h
  unfold skipColon at h
  split at h
  · cases h
  · cases h
    exact failsAt_finish
  · next hcolon hfinish =>
    cases h
    exact failsAt_peeked fun u hlooks =>
      skipColon_other (hlooks.firstMark?_ne hcolon) hlooks.isFinish_eq

/-- The place that is reported of a key is seen from the token behind it. -/
theorem failsAt_afterKey {run : Tape → Except Fault β} {front : List PlacedToken} {cause : Cause}
    (h : ∀ u : Tape, run (u.after front) = .error ⟨cause, afterKey u⟩) (t : Tape) :
    FailsAt run (t.after front) ⟨cause, afterKey t⟩ := by
  have hkey : FailsAt (fun u => run (u.after front)) t ⟨cause, afterKey t⟩ := by
    by_cases hclose : t.firstMark? = some .closeObject
    · obtain ⟨start, stop, rest, rfl⟩ := firstMark?_eq_some_iff.1 hclose
      exact failsAt_mark (fun rest => h (.token start stop (.mark .closeObject) rest)) .stop
    · have hstart : ∀ u : Tape, u.firstMark? ≠ some .closeObject → afterKey u = u.start := by
        intro u hu
        unfold afterKey
        split
        · exact absurd rfl hu
        · rfl
      rw [hstart t hclose]
      refine failsAt_start fun u hlooks => ?_
      rw [← hlooks.firstMark?_eq] at hclose
      rw [h u, hstart u hclose]
  exact hkey.after front fun u _ hu => hu

/-! ## Single values -/

namespace Reader

theorem textFrom_other {expected : String} (h : ∀ s, t.firstToken? ≠ some (.text s)) :
    textFrom expected t = .error (wrongKind expected t) := by
  unfold textFrom
  split
  · exact absurd rfl (h _)
  · rfl

theorem text_failsInTime (expected : String) : (text expected).FailsInTime := by
  intro t fault h
  have htext : textFrom expected t = .error fault := h
  unfold textFrom at htext
  split at htext
  · cases htext
  · next hother =>
    cases htext
    refine failsAt_wrongKind fun u hu => textFrom_other fun s => ?_
    rw [hu]
    exact firstToken?_ne fun start stop rest => hother start stop s rest

theorem boolFrom_other (h : ∀ b, t.firstToken? ≠ some (.bool b)) :
    boolFrom t = .error (wrongKind "a boolean" t) := by
  unfold boolFrom
  split
  · exact absurd rfl (h _)
  · rfl

theorem bool_failsInTime : bool.FailsInTime := by
  intro t fault h
  have hbool : boolFrom t = .error fault := h
  unfold boolFrom at hbool
  split at hbool
  · cases hbool
  · next hother =>
    cases hbool
    refine failsAt_wrongKind fun u hu => boolFrom_other fun b => ?_
    rw [hu]
    exact firstToken?_ne fun start stop rest => hother start stop b rest

/-! ## Choices -/

theorem closeVariant_other (hcolon : t.firstMark? ≠ some .colon) (hfinish : t.isFinish = false) :
    closeVariant t = .error ⟨.expectedColon, t.peeked⟩ := by
  unfold closeVariant
  split
  · exact absurd rfl hcolon
  · exact absurd rfl hcolon
  · cases hfinish
  · rfl

theorem closeVariant_unit (h : t.firstToken? ≠ some .null) (start stop : Nat) :
    closeVariant (.token start stop (.mark .colon) t) = .error (wrongKind "unit" t) := by
  unfold closeVariant
  split
  · next heq =>
    cases heq
    exact absurd rfl h
  · next heq =>
    cases heq
    rfl
  · next heq => cases heq
  · next hcolon _ => exact absurd rfl (hcolon _ _ _)

theorem closeVariant_null (hclose : t.firstMark? ≠ some .closeObject) (hfinish : t.isFinish = false)
    (start stop start' stop' : Nat) :
    closeVariant (.token start stop (.mark .colon) (.token start' stop' .null t))
      = .error ⟨.expectedValue, t.start⟩ := by
  simp only [closeVariant]
  split
  · exact absurd rfl hclose
  · cases hfinish
  · rfl

theorem closeVariant_prompt : Prompt closeVariant := by
  intro t fault h
  unfold closeVariant at h
  split at h
  · split at h
    · cases h
    · cases h
      exact failsAt_finish.behind.behind
    · next hclose hfinish =>
      cases h
      refine (failsAt_start fun u hlooks => ?_).behind.behind
      exact closeVariant_null (hlooks.firstMark?_ne hclose) hlooks.isFinish_eq _ _ _ _
  · next hnull =>
    cases h
    refine (failsAt_wrongKind fun u hu => closeVariant_unit ?_ _ _).behind
    rw [hu]
    exact firstToken?_ne hnull
  · cases h
    exact failsAt_finish
  · next hcolon hfinish =>
    cases h
    exact failsAt_peeked fun u hlooks =>
      closeVariant_other (hlooks.firstMark?_ne hcolon) hlooks.isFinish_eq

theorem noVariant_other (htext : t.isText = false) (hclose : t.firstMark? ≠ some .closeObject)
    (hfinish : t.isFinish = false) : noVariant t = ⟨.keyIsNoText, t.peeked⟩ := by
  unfold noVariant
  split
  · cases htext
  · cases hfinish
  · exact absurd rfl hclose
  · rfl

/-- Where a name is missing in an object, that is seen from what stands there. -/
theorem failsAt_noVariant {run : Tape → Except Fault β}
    (htext : ∀ start stop s rest, t ≠ .token start stop (.text s) rest)
    (hrun : ∀ u, (∀ start stop s rest, u ≠ .token start stop (.text s) rest) →
      run u = .error (noVariant u)) : FailsAt run t (noVariant t) := by
  have h := hrun t htext
  unfold noVariant at h ⊢
  split at h
  · exact failsAt_broken h
  · exact failsAt_finish
  · exact failsAt_mark (fun rest => hrun _ nofun) .peeked
  · next hbroken hfinish hclose =>
    refine failsAt_peeked fun u hlooks => ?_
    -- a text would be seen as one even if it cannot be finished
    have hother : u.isText = false := by
      rw [hlooks.isText_eq]
      exact isText_eq_false htext hbroken
    rw [hrun u, noVariant_other hother (hlooks.firstMark?_ne hclose) hlooks.isFinish_eq]
    rintro start stop s rest rfl
    cases hother

theorem choose_eq_error {options : List (String × α)} {name : String} {stop : Nat}
    (h : choose options name stop = .error fault) : ∃ cause, fault = ⟨cause, stop⟩ := by
  unfold choose at h
  split at h <;> cases h
  exact ⟨_, rfl⟩

variable {options : List (String × α)}

theorem choiceFrom_other (htext : t.isText = false) (hopen : t.firstMark? ≠ some .openObject)
    (hfinish : t.isFinish = false) : choiceFrom options t = .error ⟨.expectedValue, t.peeked⟩ := by
  unfold choiceFrom
  split
  · cases htext
  · exact absurd rfl hopen
  · exact absurd rfl hopen
  · cases htext
  · cases hfinish
  · rfl

theorem choiceFrom_object (h : ∀ start stop s rest, t ≠ .token start stop (.text s) rest)
    (start stop : Nat) :
    choiceFrom options (.token start stop (.mark .openObject) t) = .error (noVariant t) := by
  unfold choiceFrom
  split
  · next heq => cases heq
  · next heq =>
    cases heq
    exact absurd rfl (h _ _ _ _)
  · next heq =>
    cases heq
    rfl
  · next heq => cases heq
  · next heq => cases heq
  · next hopen _ _ => exact absurd rfl (hopen _ _ _)

theorem choice_failsInTime (options : List (String × α)) : (choice options).FailsInTime := by
  intro t fault h
  have hchoice : choiceFrom options t = .error fault := h
  show FailsAt (choiceFrom options) t fault
  unfold choiceFrom at hchoice
  split at hchoice
  · split at hchoice <;> cases hchoice
    next hchoose =>
    obtain ⟨cause, rfl⟩ := choose_eq_error hchoose
    exact failsAt_stop fun rest => by simp only [choiceFrom, hchoose]
  · next start stop start' stop' name rest =>
    split at hchoice
    · next a hchoose =>
      split at hchoice <;> cases hchoice
      next hclose =>
      refine (closeVariant_prompt hclose).after
        [⟨start, stop, .mark .openObject⟩, ⟨start', stop', .text name⟩] fun u _ hu => ?_
      simp only [after_cons, after_nil, choiceFrom, hchoose, hu]
    · next hchoose =>
      cases hchoice
      obtain ⟨cause, rfl⟩ := choose_eq_error hchoose
      exact (failsAt_stop fun rest => by simp only [choiceFrom, hchoose]).behind
  · next htext =>
    cases hchoice
    exact (failsAt_noVariant htext fun u hu => choiceFrom_object hu _ _).behind
  · cases hchoice
    exact failsAt_broken rfl
  · cases hchoice
    exact failsAt_finish
  · next htext _ hopen hbroken hfinish =>
    cases hchoice
    refine failsAt_peeked fun u hlooks =>
      choiceFrom_other ?_ (hlooks.firstMark?_ne hopen) hlooks.isFinish_eq
    rw [hlooks.isText_eq]
    exact isText_eq_false htext hbroken

/-! ## Readers that are put together -/

theorem map_run {reader : Reader α} (f : α → β) (t : Tape) :
    (reader.map f).run t = (reader.run t).map fun part => (f part.1, part.2) := rfl

theorem map_failsInTime {reader : Reader α} (h : reader.FailsInTime) (f : α → β) :
    (reader.map f).FailsInTime := by
  intro t fault hrun
  cases hreader : reader.run t with
  | ok part =>
    rw [map_run, hreader] at hrun
    cases hrun
  | error fault =>
    rw [map_run, hreader] at hrun
    cases hrun
    refine (h hreader).of_part fun u hu => ?_
    rw [map_run, hu]
    rfl

theorem items_error {item : Reader α} {isFirst : Bool} (h : nextItem isFirst t = .error fault) :
    items item isFirst t = .error fault := by
  rw [items]
  split
  · next hn =>
    rw [h] at hn
    cases hn
    rfl
  · next hn =>
    rw [h] at hn
    cases hn
  · next hn =>
    rw [h] at hn
    cases hn

theorem items_prompt {item : Reader α} (hself : item.SelfDelimiting) (h : item.FailsInTime)
    (isFirst : Bool) : Prompt (items item isFirst) := by
  intro t fault hitems
  fun_induction items item isFirst t with
  | case1 isFirst t fault hn =>
    cases hitems
    exact (nextItem_prompt isFirst hn).of_part fun u hu => items_error hu
  | case2 => cases hitems
  | case3 isFirst t start hn fault hi =>
    cases hitems
    obtain ⟨hopens, front, -, rfl, hnext⟩ := nextItem_eq_more hn
    refine (h hi).after front fun u hlooks hu => ?_
    rw [items_more (hnext u (hlooks.opensItem hopens)), hu]
    rfl
  | case4 isFirst t start hn a mid hi h1 h2 fault hr ih =>
    cases hitems
    obtain ⟨hopens, front, -, rfl, hnext⟩ := nextItem_eq_more hn
    -- the fault is behind an item, which ends by itself
    obtain ⟨ts, rfl, htakes⟩ := hself hi
    rw [← after_append]
    refine (ih hr).after (front ++ ts) fun u hlooks hu => ?_
    rw [after_append, items_more (hnext _ ((hlooks.after ts).opensItem hopens)), htakes.run_after]
    simp only [Except.bind, hu, Except.map]
  | case5 => cases hitems

theorem listFrom_other {item : Reader α} (h : t.firstToken? ≠ some (.mark .openList)) :
    listFrom item t = .error (wrongKind "a sequence" t) := by
  unfold listFrom
  split
  · exact absurd rfl h
  · rfl

theorem list_failsInTime {item : Reader α} (hself : item.SelfDelimiting) (h : item.FailsInTime) :
    item.list.FailsInTime := by
  intro t fault hrun
  have hlist : listFrom item t = .error fault := hrun
  unfold listFrom at hlist
  split at hlist
  · next start stop rest =>
    exact (items_prompt hself h true hlist).after [⟨start, stop, .mark .openList⟩] fun u _ hu => hu
  · next hother =>
    cases hlist
    refine failsAt_wrongKind fun u hu => listFrom_other ?_
    rw [hu]
    exact firstToken?_ne hother

end Reader

/-! ## Records -/

namespace RecordFormat

variable {δ : Type} {format : RecordFormat δ α}

theorem finish_eq_error {draft : δ} {stop : Nat} (h : format.finish draft stop = .error fault) :
    ∃ cause, fault = ⟨cause, stop⟩ := by
  unfold finish at h
  split at h <;> cases h
  exact ⟨_, rfl⟩

theorem readFields_error {isFirst : Bool} {draft : δ} (h : nextKey isFirst t = .error fault) :
    format.readFields isFirst draft t = .error fault := by
  rw [readFields]
  split
  · next hk =>
    rw [h] at hk
    cases hk
    rfl
  · next hk =>
    rw [h] at hk
    cases hk
  · next hk =>
    rw [h] at hk
    cases hk

theorem readFields_prompt (hself : ∀ field ∈ format.fields, field.reader.SelfDelimiting)
    (h : ∀ field ∈ format.fields, field.reader.FailsInTime) (isFirst : Bool) (draft : δ) :
    Prompt (format.readFields isFirst draft) := by
  intro t fault hfields
  fun_induction readFields format isFirst draft t with
  | case1 isFirst draft t fault hk =>
    cases hfields
    exact (nextKey_prompt isFirst hk).of_part fun u hu => readFields_error hu
  | case2 isFirst draft t stop rest hk fault hfinish =>
    cases hfields
    obtain ⟨start, rfl⟩ := nextKey_eq_close hk
    obtain ⟨cause, rfl⟩ := finish_eq_error hfinish
    refine failsAt_stop fun rest => ?_
    have hclose : nextKey isFirst (.token start stop (.mark .closeObject) rest)
        = .ok (.close stop rest) := rfl
    rw [readFields_close hclose, hfinish]
    rfl
  | case3 => cases hfields
  | case4 isFirst draft t name after hk hfind =>
    cases hfields
    obtain ⟨front, -, rfl, hkey⟩ := nextKey_eq_more hk
    refine failsAt_afterKey (fun u => ?_) after
    rw [readFields_more (hkey u), hfind]
    rfl
  | case5 isFirst draft t name after hk field hfind hseen =>
    cases hfields
    obtain ⟨front, -, rfl, hkey⟩ := nextKey_eq_more hk
    refine failsAt_afterKey (fun u => ?_) after
    simp only [readFields_more (hkey u), hfind, if_pos hseen]
    rfl
  | case6 isFirst draft t name after hk field hfind hseen fault hc =>
    cases hfields
    obtain ⟨front, -, rfl, hkey⟩ := nextKey_eq_more hk
    refine (skipColon_prompt hc).after front fun u _ hu => ?_
    simp only [readFields_more (hkey u), hfind, if_neg hseen, hu]
    rfl
  | case7 isFirst draft t name after hk field hfind hseen value hc fault hv =>
    cases hfields
    obtain ⟨front, -, rfl, hkey⟩ := nextKey_eq_more hk
    obtain ⟨start, stop, rfl⟩ := skipColon_eq_ok hc
    have hvalue := h field (List.mem_of_find?_eq_some hfind) hv
    rw [← after_nil value, ← after_cons value ⟨start, stop, .mark .colon⟩, ← after_append]
    refine hvalue.after (front ++ [⟨start, stop, .mark .colon⟩]) fun u _ hu => ?_
    rw [after_append, after_cons, readFields_key (hkey _), hfind]
    simp only [if_neg hseen, after_nil, hu]
    rfl
  | case8 isFirst draft t name after hk field hfind hseen value hc put mid hv h1 h2 h3 ih =>
    obtain ⟨front, -, rfl, hkey⟩ := nextKey_eq_more hk
    obtain ⟨start, stop, rfl⟩ := skipColon_eq_ok hc
    -- the fault is behind a field, whose value ends by itself
    obtain ⟨ts, rfl, htakes⟩ := hself field (List.mem_of_find?_eq_some hfind) hv
    rw [← after_cons mid ⟨start, stop, .mark .colon⟩, ← after_append]
    refine (ih hfields).after (front ++ ⟨start, stop, .mark .colon⟩ :: ts) fun u _ hu => ?_
    rw [after_append, after_cons, readFields_key (hkey _), hfind]
    simp only [if_neg hseen, htakes.run_after, Except.bind]
    exact hu

theorem closeItems_comma (hclose : t.firstMark? ≠ some .closeList) (start stop : Nat) :
    closeItems (.token start stop (.mark .comma) t) = .error ⟨.trailingCharacters, t.peeked⟩ := by
  unfold closeItems
  split
  · next heq => cases heq
  · next heq =>
    cases heq
    exact absurd rfl hclose
  · next heq =>
    cases heq
    rfl
  · next heq => cases heq
  · next hcomma _ => exact absurd rfl (hcomma _ _ _)

theorem closeItems_other (hclose : t.firstMark? ≠ some .closeList)
    (hcomma : t.firstMark? ≠ some .comma) (hfinish : t.isFinish = false) :
    closeItems t = .error ⟨.trailingCharacters, t.peeked⟩ := by
  unfold closeItems
  split
  · exact absurd rfl hclose
  · exact absurd rfl hcomma
  · exact absurd rfl hcomma
  · cases hfinish
  · rfl

theorem closeItems_prompt : Prompt closeItems := by
  intro t fault h
  unfold closeItems at h
  split at h
  · cases h
  · cases h
    exact (failsAt_mark (fun _ => rfl) .peeked).behind
  · next hclose =>
    cases h
    refine (failsAt_peeked fun u hlooks => ?_).behind
    exact closeItems_comma (hlooks.firstMark?_ne hclose) _ _
  · cases h
    exact failsAt_finish
  · next hclose _ hcomma _ =>
    cases h
    exact failsAt_peeked fun u hlooks =>
      closeItems_other (hlooks.firstMark?_ne hclose) (hlooks.firstMark?_ne hcomma)
        hlooks.isFinish_eq

theorem readItems_prompt {fields : List (Field δ)}
    (hself : ∀ field ∈ fields, field.reader.SelfDelimiting)
    (h : ∀ field ∈ fields, field.reader.FailsInTime) (count : Nat) (draft : δ) :
    Prompt (format.readItems fields count draft) := by
  intro t fault hitems
  induction fields generalizing count draft t with
  | nil =>
    simp only [readItems] at hitems
    split at hitems
    · next hclose =>
      cases hitems
      refine (closeItems_prompt hclose).of_part fun u hu => ?_
      simp only [readItems, hu]
    · next hclose =>
      split at hitems <;> cases hitems
      next hfinish =>
      obtain ⟨start, rfl⟩ := closeItems_eq_ok hclose
      obtain ⟨cause, rfl⟩ := finish_eq_error hfinish
      refine failsAt_stop fun rest => ?_
      simp only [readItems, closeItems, hfinish]
  | cons field fields ih =>
    obtain ⟨hfself, hself⟩ := List.forall_mem_cons.1 hself
    obtain ⟨hfield, h⟩ := List.forall_mem_cons.1 h
    simp only [readItems] at hitems
    split at hitems
    · next hn =>
      cases hitems
      refine (nextItem_prompt _ hn).of_part fun u hu => ?_
      simp only [readItems, hu]
    · next hn =>
      obtain ⟨start, rfl⟩ := nextItem_eq_close hn
      split at hitems
      · next hrequired =>
        cases hitems
        refine failsAt_stop fun rest => ?_
        simp only [readItems, nextItem_close, if_pos hrequired]
        rfl
      · next hrequired =>
        -- the mark that ends the list is seen again by the fields still to come
        refine (ih hself h _ _ hitems).after [] fun u hlooks hu => ?_
        obtain ⟨start', stop', rest', rfl⟩ := firstMark?_eq_some_iff.1 hlooks.firstMark?_eq
        simp only [after_nil, readItems, nextItem_close, if_neg hrequired]
        exact hu
    · next hn =>
      obtain ⟨hopens, front, -, rfl, hnext⟩ := nextItem_eq_more hn
      split at hitems
      · next hv =>
        cases hitems
        refine (hfield hv).after front fun u hlooks hu => ?_
        rw [readItems_more (hnext u (hlooks.opensItem hopens)), hu]
        rfl
      · next put mid hv =>
        obtain ⟨ts, rfl, htakes⟩ := hfself hv
        rw [← after_append]
        refine (ih hself h _ _ hitems).after (front ++ ts) fun u hlooks hu => ?_
        rw [after_append, readItems_more (hnext _ ((hlooks.after ts).opensItem hopens)),
          htakes.run_after]
        exact hu

theorem recordFrom_other (hobject : t.firstToken? ≠ some (.mark .openObject))
    (hlist : t.firstToken? ≠ some (.mark .openList)) :
    format.recordFrom t = .error (wrongKind format.title t) := by
  unfold recordFrom
  split
  · exact absurd rfl hobject
  · exact absurd rfl hlist
  · rfl

theorem reader_failsInTime (hself : ∀ field ∈ format.fields, field.reader.SelfDelimiting)
    (h : ∀ field ∈ format.fields, field.reader.FailsInTime) : format.reader.FailsInTime := by
  intro t fault hrun
  have hrecord : format.recordFrom t = .error fault := hrun
  unfold recordFrom at hrecord
  split at hrecord
  · next start stop rest =>
    exact (readFields_prompt hself h true format.blank hrecord).after
      [⟨start, stop, .mark .openObject⟩] fun u _ hu => hu
  · next start stop rest =>
    exact (readItems_prompt hself h 0 format.blank hrecord).after
      [⟨start, stop, .mark .openList⟩] fun u _ hu => hu
  · next hobject hlist =>
    cases hrecord
    refine failsAt_wrongKind fun u hu => recordFrom_other ?_ ?_
    · rw [hu]
      exact firstToken?_ne hobject
    · rw [hu]
      exact firstToken?_ne hlist

end RecordFormat

theorem Reader.Composed.failsInTime {reader : Reader α} (h : reader.Composed) :
    reader.FailsInTime := by
  induction h with
  | text expected => exact text_failsInTime expected
  | bool => exact bool_failsInTime
  | choice options => exact choice_failsInTime options
  | map f _ ih => exact map_failsInTime ih f
  | list h ih => exact list_failsInTime h.selfDelimiting ih
  | record h ih =>
    exact RecordFormat.reader_failsInTime (fun field hf => (h field hf).selfDelimiting) ih

end ClassAtlas.Manifest

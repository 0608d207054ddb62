import Mathlib.Data.List.DropRight
import ClassAtlas.Proofs.Manifest.Failing

/-! # Where manifests are at fault

    The place in the message of a refused manifest lies in its text, and it is
    counted in lines and bytes as an editor counts them.  Nothing behind the
    byte at that place has a part in it: every text that starts with the same
    bytes up to that one is refused with the same message (`load_placed`).
-/

namespace ClassAtlas.Manifest

open Tape

variable {text : String} {fault : Fault}

/-! ## Lines and columns -/

/-- The bytes end in this line, counted from one, with so many bytes of it. -/
structure EndsAt (bs : Bytes) (line column : Nat) : Prop where
  line_eq : line = 1 + bs.count lineFeed
  column_eq : ∃ lines rest, bs = lines ++ rest ∧ (∀ b ∈ lines.getLast?, b = lineFeed)
    ∧ lineFeed ∉ rest ∧ column = rest.length

theorem endsAt_placeAfter (bs : Bytes) :
    EndsAt bs (Place.after bs).line (Place.after bs).column where
  line_eq := Nat.add_comm _ _
  column_eq := by
    refine ⟨bs.rdropWhile (· != lineFeed), bs.rtakeWhile (· != lineFeed),
      List.rdropWhile_append_rtakeWhile.symm, ?_, ?_, ?_⟩
    · intro b hb
      obtain ⟨hne, rfl⟩ := List.mem_getLast?_eq_getLast hb
      have hlast := List.rdropWhile_last_not _ _ hne
      simpa using hlast
    · intro hmem
      have hne := List.mem_rtakeWhile_imp hmem
      simp at hne
    · rw [List.rtakeWhile, List.length_reverse]
      rfl

theorem message_endsAt (fault : Fault) (text : String) :
    ∃ cause line column, EndsAt ((Utf8.encode text).take fault.offset) line column
      ∧ fault.message text
        = cause ++ " at line " ++ toString line ++ " column " ++ toString column := by
  refine ⟨fault.cause.message, _, _, endsAt_placeAfter _, ?_⟩
  simp only [Fault.message, Place.message, String.append_assoc]

/-! ## Texts that are refused alike -/

/-- A manifest is refused because of a token, and so are all texts where it looks
    the same. -/
theorem read_eq_error (h : read text = .error fault) :
    ∃ ts u, Tape.ofText text = u.after ts ∧ u.Points fault.offset
      ∧ ∀ text' u', Tape.ofText text' = u'.after ts → Looks fault.offset u u' →
        read text' = .error fault := by
  unfold read at h
  split at h
  · next hrun =>
    cases h
    obtain ⟨ts, u, htape, hpoints, hlooks⟩ := format_composed.failsInTime hrun
    refine ⟨ts, u, htape, hpoints, fun text' u' htape' hu' => ?_⟩
    rw [read, htape', hlooks u' hu']
  · cases h
  · next rest hrest hrun =>
    cases h
    -- the manifest ends, and something comes after it
    obtain ⟨ts, htape, htakes⟩ := format_composed.selfDelimiting hrun
    refine ⟨ts, rest, htape, .peeked, fun text' u' htape' hu' => ?_⟩
    rw [read, htape', htakes.run_after, hu'.peeked_eq.symm]
    split
    · next heq => cases heq
    · next heq =>
      cases heq
      cases hu'.isFinish_eq
    · next heq =>
      cases heq
      rfl

theorem offset_le_of_read (h : read text = .error fault) :
    fault.offset ≤ (Utf8.encode text).length := by
  obtain ⟨ts, u, htape, hpoints, -⟩ := read_eq_error h
  obtain ⟨-, -, hbounds⟩ := bounds_of_ofChars htape
  have hle := (hbounds _ hpoints).2
  rw [Utf8.encode, Utf8.length_flatMap_encodeChar]
  omega

/-- What is read of a text up to a fault is read of every text that starts with
    the same bytes. -/
theorem read_of_take_eq (h : read text = .error fault)
    (hlt : fault.offset < (Utf8.encode text).length) {text' : String}
    (htake : (Utf8.encode text').take (fault.offset + 1)
      = (Utf8.encode text).take (fault.offset + 1)) : read text' = .error fault := by
  obtain ⟨ts, u, htape, hpoints, hlooks⟩ := read_eq_error h
  obtain ⟨-, hstops, hbounds⟩ := bounds_of_ofChars htape
  have hstart := (hbounds _ hpoints).1
  rw [Utf8.encode, Utf8.length_flatMap_encodeChar] at hlt
  have hshares := Shares.of_take_eq htake hlt 0
  rw [Nat.zero_add] at hshares
  obtain ⟨u', htape', hu'⟩ := exists_looks_of_shares hshares htape
    (fun p hp => Nat.le_trans (hstops p hp) hstart) hstart
  exact hlooks text' u' htape' hu'

/-- The message of a refused manifest ends with the line and the column of a
    place in its text.  If that is not the end of the text, every text with the
    same bytes before the place and at it is refused with the same message. -/
theorem load_placed {path : Path} {e : GenerationError} (h : load path text = .error e) :
    ∃ message k line column, e = .declarationSource path message
      ∧ k ≤ (Utf8.encode text).length
      ∧ EndsAt ((Utf8.encode text).take k) line column
      ∧ (∃ cause, message = cause ++ " at line " ++ toString line ++ " column " ++ toString column)
      ∧ (k < (Utf8.encode text).length →
          ∀ text', (Utf8.encode text').take (k + 1) = (Utf8.encode text).take (k + 1) →
            load path text' = .error (.declarationSource path message)) := by
  cases hread : read text with
  | ok c =>
    rw [load_of_read hread] at h
    cases h
  | error fault =>
    rw [load_of_read_eq_error hread] at h
    cases h
    obtain ⟨cause, line, column, hends, hmessage⟩ := message_endsAt fault text
    refine ⟨fault.message text, fault.offset, line, column, rfl, offset_le_of_read hread, hends,
      ⟨cause, hmessage⟩, fun hlt text' htake => ?_⟩
    have hbefore :
        (Utf8.encode text').take fault.offset = (Utf8.encode text).take fault.offset := by
      have hfront := congrArg (List.take fault.offset) htake
      rwa [List.take_take, List.take_take, Nat.min_eq_left (Nat.le_succ _)] at hfront
    rw [load_of_read_eq_error (read_of_take_eq hread hlt htake), Fault.message, Fault.message,
      hbefore]

/-- A manifest that is written as a list and lacks its fields; the list ends on
    the second line. -/
def fieldless : String := "[\n]\n"

theorem ofText_fieldless : Tape.ofText fieldless
    = .token 0 1 (.mark .openList) (.token 2 3 (.mark .closeList) (.finish 4)) := by
  have hopen : scanToken? 0 '[' ['\n', ']', '\n']
      = some (.ok ⟨.mark .openList, 1, ['\n', ']', '\n']⟩) := rfl
  have hclose : scanToken? 2 ']' ['\n'] = some (.ok ⟨.mark .closeList, 3, ['\n']⟩) := rfl
  show ofChars 0 ['[', '\n', ']', '\n'] = _
  rw [ofChars_token rfl hopen]
  simp only
  rw [ofChars_blank rfl, ofChars_token rfl hclose]
  simp only
  rw [ofChars_blank rfl, ofChars]

theorem load_fieldless : load (.ofString "/a.decl.json") fieldless
    = .error (.declarationSource (.ofString "/a.decl.json")
        "invalid length 0, expected struct ManifestFile with 2 elements at line 2 column 1") := by
  have hread : read fieldless = .error ⟨.tooShort 0 "struct ManifestFile" 2, 3⟩ := by
    rw [read, ofText_fieldless]
    rfl
  rw [load_of_read_eq_error hread]
  decide

theorem load_placed_fieldless :
    let path := Path.ofString "/a.decl.json"
    let message :=
      "invalid length 0, expected struct ManifestFile with 2 elements at line 2 column 1"
    load path fieldless = .error (.declarationSource path message)
      ∧ ∃ k line column, k ≤ (Utf8.encode fieldless).length
        ∧ EndsAt ((Utf8.encode fieldless).take k) line column
        ∧ (∃ cause,
            message = cause ++ " at line " ++ toString line ++ " column " ++ toString column)
        ∧ (k < (Utf8.encode fieldless).length →
            ∀ text', (Utf8.encode text').take (k + 1) = (Utf8.encode fieldless).take (k + 1) →
              load path text' = .error (.declarationSource path message)) := by
  intro path message
  obtain ⟨message', k, line, column, herror, hplace⟩ := load_placed load_fieldless
  cases herror
  exact ⟨load_fieldless, k, line, column, hplace⟩

end ClassAtlas.Manifest

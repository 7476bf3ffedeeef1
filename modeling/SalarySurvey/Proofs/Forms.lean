import SalarySurvey.Proofs.Utf8
import SalarySurvey.Web.Form
import SalarySurvey.Web.Target
import Mathlib.Data.List.TakeWhile

/-!
# Forms are read back

A written byte is an ASCII letter or digit, or a percent sign and two hexadecimal digits, and the
reader takes it back whatever follows it. So none of the marks with a meaning in a form (ampersand,
equals sign, plus sign) stands inside a written key or value, and splitting undoes what joining
did. A form of any parameters can stand in a target, as long as that is not too long.
-/
namespace SalarySurvey.Web

namespace Form

section Bytes

variable {byte : UInt8} {rest : List UInt8}

/-- The bytes of a written byte. -/
inductive Written (byte : UInt8) : List UInt8 → Prop where
  /-- A letter or digit stands for itself. -/
  | plain (unmarked : byte ∉ [plus, percent, ampersand, equals]) : Written byte [byte]
  /-- Any other byte is escaped. -/
  | escaped {high low : UInt8} (digits : hexByte? high low = some byte)
    (unmarked : ∀ digit ∈ [high, low], digit ∉ [ampersand, equals]) :
    Written byte [percent, high, low]

/-- A letter or digit is one byte without a meaning of its own. -/
theorem utf8EncodeChar_alphanumeric (plain : (Char.ofNat byte.toNat).isAlphanum = true) :
    String.utf8EncodeChar (Char.ofNat byte.toNat) = [byte] ∧
      byte ∉ [plus, percent, ampersand, equals] := by
  have each : ∀ n < 256, (Char.ofNat n).isAlphanum = true →
      String.utf8EncodeChar (Char.ofNat n) = [UInt8.ofNat n] ∧
        UInt8.ofNat n ∉ [plus, percent, ampersand, equals] := by
    decide +kernel
  have found := each byte.toNat byte.toNat_lt plain
  rwa [UInt8.ofNat_toNat] at found

/-- A hexadecimal digit is one byte with its value and no mark. -/
theorem utf8EncodeChar_hexDigit {n : Nat} (small : n < 16) :
    ∃ digit, String.utf8EncodeChar (hexDigit n) = [digit] ∧ hexValue? digit = some n ∧
      digit ∉ [ampersand, equals] := by
  have each : ∀ n < 16,
      String.utf8EncodeChar (hexDigit n) = [UInt8.ofNat (hexDigit n).toNat] ∧
        hexValue? (UInt8.ofNat (hexDigit n).toNat) = some n ∧
        UInt8.ofNat (hexDigit n).toNat ∉ [ampersand, equals] := by
    decide
  exact ⟨_, each n small⟩

theorem written_writeByte (byte : UInt8) : Written byte (Text.Utf8.encode (writeByte byte)) := by
  unfold writeByte
  dsimp only
  split
  · next plain =>
    obtain ⟨single, unmarked⟩ := utf8EncodeChar_alphanumeric plain
    rw [Text.Utf8.encode, List.flatMap_singleton, single]
    exact .plain unmarked
  · have bound := byte.toNat_lt
    obtain ⟨high, wroteHigh, valueHigh, plainHigh⟩ :=
      utf8EncodeChar_hexDigit (show byte.toNat / 16 < 16 by omega)
    obtain ⟨low, wroteLow, valueLow, plainLow⟩ :=
      utf8EncodeChar_hexDigit (show byte.toNat % 16 < 16 by omega)
    have sign : String.utf8EncodeChar '%' = [percent] := by decide
    have bytes : Text.Utf8.encode ['%', hexDigit (byte.toNat / 16), hexDigit (byte.toNat % 16)] =
        [percent, high, low] := by
      simp [Text.Utf8.encode, sign, wroteHigh, wroteLow]
    have digits : hexByte? high low = some byte := by
      rw [hexByte?, valueHigh, valueLow]
      change some (UInt8.ofNat (byte.toNat / 16 * 16 + byte.toNat % 16)) = some byte
      rw [Nat.div_add_mod', UInt8.ofNat_toNat]
    rw [bytes]
    refine .escaped digits ?_
    simpa using And.intro plainHigh plainLow

/-- A written byte has neither an ampersand nor an equals sign. -/
theorem Written.not_mem {bytes : List UInt8} (written : Written byte bytes) {mark : UInt8}
    (special : mark ∈ [ampersand, equals]) : mark ∉ bytes := by
  rintro listed
  cases written with
  | plain unmarked =>
    rw [List.mem_singleton.mp listed] at special
    exact unmarked (List.mem_cons_of_mem _ (List.mem_cons_of_mem _ special))
  | escaped digits unmarked =>
    rcases List.mem_cons.mp listed with rfl | digit
    · revert special
      decide
    · exact unmarked mark digit special

/-- A byte that is not special is kept. -/
theorem unescape_plain (unmarked : byte ∉ [plus, percent, ampersand, equals]) :
    unescape (byte :: rest) = byte :: unescape rest := by
  simp only [List.mem_cons, not_or] at unmarked
  obtain ⟨notPlus, notPercent, -⟩ := unmarked
  match rest with
  | [] => simp [unescape, notPlus]
  | [next] => simp [unescape, notPlus]
  | high :: low :: rest => simp [unescape, notPlus, notPercent]

/-- A written byte is read back. -/
theorem Written.unescape {bytes : List UInt8} (written : Written byte bytes) :
    unescape (bytes ++ rest) = byte :: unescape rest := by
  cases written with
  | plain unmarked => exact unescape_plain unmarked
  | escaped digits _ =>
    have other : percent ≠ plus := by decide
    simp [Form.unescape, other, digits]

end Bytes

section Texts

/-- The bytes of a written text are those of its bytes. -/
theorem encode_writeText (text : String) :
    Text.Utf8.encode (writeText text) =
      (Text.Utf8.encode text.toList).flatMap fun byte => Text.Utf8.encode (writeByte byte) :=
  List.flatMap_assoc

/-- A written text has neither an ampersand nor an equals sign. -/
theorem not_mem_writeText {text : String} {mark : UInt8} (special : mark ∈ [ampersand, equals]) :
    mark ∉ Text.Utf8.encode (writeText text) := by
  rw [encode_writeText, List.mem_flatMap]
  rintro ⟨byte, -, listed⟩
  exact (written_writeByte byte).not_mem special listed

/-- A written text is read back. -/
theorem decodeText_writeText (text : String) :
    decodeText (Text.Utf8.encode (writeText text)) = text := by
  have bytes (bytes : List UInt8) :
      unescape (bytes.flatMap fun byte => Text.Utf8.encode (writeByte byte)) = bytes := by
    induction bytes with
    | nil => rfl
    | cons byte bytes ih => rw [List.flatMap_cons, (written_writeByte byte).unescape, ih]
  have characters := Text.Utf8.read_encode text.toList []
  rw [List.append_nil] at characters
  rw [decodeText, encode_writeText, bytes, Text.Utf8.decodeLossy, characters]
  simp [Text.Utf8.read, Function.comp_def]

/-- The bytes of a written parameter. -/
theorem encode_writePiece (parameter : String × String) :
    Text.Utf8.encode (writePiece parameter) =
      Text.Utf8.encode (writeText parameter.1) ++
        equals :: Text.Utf8.encode (writeText parameter.2) := by
  have sign : String.utf8EncodeChar '=' = [equals] := by decide
  simp [Text.Utf8.encode, writePiece, sign]

/-- A written parameter is read back: the first equals sign is the one behind its key. -/
theorem decodePiece_writePiece (parameter : String × String) :
    decodePiece (Text.Utf8.encode (writePiece parameter)) = parameter := by
  have key : ∀ byte ∈ Text.Utf8.encode (writeText parameter.1), (byte != equals) = true := by
    intro byte listed
    rw [bne_iff_ne]
    rintro rfl
    exact not_mem_writeText (by simp) listed
  rw [decodePiece, encode_writePiece, List.takeWhile_append_of_pos key,
    List.dropWhile_append_of_pos key]
  simp [decodeText_writeText]

/-- A written parameter has no ampersand. -/
theorem ampersand_not_mem_writePiece (parameter : String × String) :
    ampersand ∉ Text.Utf8.encode (writePiece parameter) := by
  have marked : ampersand ∈ [ampersand, equals] := by decide
  have other : ampersand ≠ equals := by decide
  rw [encode_writePiece, List.mem_append, List.mem_cons]
  rintro (key | same | value)
  · exact not_mem_writeText marked key
  · exact other same
  · exact not_mem_writeText marked value

/-- The bytes of joined pieces are those of the pieces with ampersands between them. -/
theorem encode_intercalate (pieces : List (List Char)) :
    Text.Utf8.encode (['&'].intercalate pieces) =
      [ampersand].intercalate (pieces.map Text.Utf8.encode) := by
  have sign : String.utf8EncodeChar '&' = [ampersand] := by decide
  match pieces with
  | [] => rfl
  | [piece] => simp
  | first :: second :: others =>
    have rest := encode_intercalate (second :: others)
    rw [List.map_cons, List.map_cons, List.intercalate_cons_cons, List.intercalate_cons_cons,
      ← List.map_cons, ← rest]
    simp [Text.Utf8.encode, sign]

/-- A form of any parameters is read back. -/
theorem decode_encode (parameters : List (String × String)) :
    decode (encode parameters) = parameters := by
  rw [decode, encode, String.toList_ofList, encode_intercalate, List.map_map, decodeBytes]
  by_cases absent : parameters = []
  · subst absent
    decide
  · rw [List.splitOn_intercalate]
    · have filled : ∀ parameter, (Text.Utf8.encode (writePiece parameter)).isEmpty = false := by
        intro parameter
        rw [encode_writePiece]
        simp
      simp [List.filter_map, Function.comp_def, filled, decodePiece_writePiece]
    · intro piece listed
      obtain ⟨parameter, -, rfl⟩ := List.mem_map.mp listed
      exact ampersand_not_mem_writePiece parameter
    · simpa using absent

end Texts

section Targets

/-- Whether a character can stand in the query of a target without ending it. -/
def Fits (c : Char) : Prop :=
  Target.isQueryChar c = true ∧ c ≠ '#'

/-- A written byte fits a query. -/
theorem fits_of_mem_writeByte {byte : UInt8} {c : Char} (listed : c ∈ writeByte byte) : Fits c := by
  have each : ∀ n < 256, (writeByte (UInt8.ofNat n)).all
      (fun c => Target.isQueryChar c && c != '#') = true := by
    decide +kernel
  have found := each byte.toNat byte.toNat_lt
  rw [UInt8.ofNat_toNat, List.all_eq_true] at found
  simpa [Fits] using found c listed

/-- A written parameter fits a query. -/
theorem fits_of_mem_writePiece {parameter : String × String} {c : Char}
    (listed : c ∈ writePiece parameter) : Fits c := by
  have texts {text : String} (inside : c ∈ writeText text) : Fits c := by
    obtain ⟨byte, -, written⟩ := List.mem_flatMap.mp inside
    exact fits_of_mem_writeByte written
  rw [writePiece, List.mem_append, List.mem_cons] at listed
  rcases listed with key | rfl | value
  · exact texts key
  · exact ⟨by decide, by decide⟩
  · exact texts value

/-- A form fits a query. -/
theorem fits_of_mem_encode {parameters : List (String × String)} {c : Char}
    (listed : c ∈ (encode parameters).toList) : Fits c := by
  rw [encode, String.toList_ofList] at listed
  match parameters with
  | [] => contradiction
  | [parameter] =>
    rw [List.map_singleton, List.intercalate_singleton] at listed
    exact fits_of_mem_writePiece listed
  | first :: second :: others =>
    rw [List.map_cons, List.map_cons, List.intercalate_cons_cons, ← List.map_cons,
      List.mem_append, List.mem_append, List.mem_singleton] at listed
    rcases listed with (inside | rfl) | behind
    · exact fits_of_mem_writePiece inside
    · exact ⟨by decide, by decide⟩
    · exact fits_of_mem_encode (by rwa [encode, String.toList_ofList])

end Targets

end Form

end SalarySurvey.Web

import HarvardBench.Loading
import HarvardBench.Proofs.Success

/-! Images of program memories.

An image has two bytes for each word, the low one first. The image of a memory decodes to its words,
and what decodes is the image of its words, so a memory that takes an image has that image again,
with zeros for the words that it did not bring.
-/

set_option autoImplicit false

namespace HarvardBench

namespace Rom

theorem wordsFrom_codes (start : Nat) (words : List Word) :
    wordsFrom start (words.map fun word => (word.toNat : Int)) = .ok words := by
  induction words generalizing start with
  | nil => rfl
  | cons word words ih =>
    have own : bits? 16 (word.toNat : Int) = some word := by
      have small := word.isLt
      rw [bits?, if_pos ⟨Int.natCast_nonneg _, by simpa using small⟩, BitVec.ofInt_natCast,
        BitVec.ofNat_toNat, BitVec.setWidth_eq]
    rw [List.map_cons, wordsFrom, own]
    dsimp only
    rw [ih]
    rfl

theorem load_codes (rom : Rom) (words : List Word) :
    rom.load (words.map fun word => (word.toNat : Int)) = rom.loadWords words := by
  rw [load, loadWords, List.length_map, wordsFrom_codes]
  rfl

theorem loadWords_of_fits {rom : Rom} {words : List Word} (fits : words.length ≤ rom.size) :
    rom.loadWords words = .ok (filled rom.size words) := if_neg (Nat.not_lt.mpr fits)

theorem loadWords_of_tooLong {rom : Rom} {words : List Word} (long : rom.size < words.length) :
    rom.loadWords words = .error (.tooLong words.length rom.size) := if_pos long

theorem filled_words (rom : Rom) : filled rom.size rom.words.toList = rom := by
  obtain ⟨words⟩ := rom
  simp [filled, size]

end Rom

namespace Image

variable {bytes : List Byte} {words : List Word}

theorem words?_eq_none_iff : words? bytes = none ↔ bytes.length % 2 = 1 := by
  fun_induction words? bytes with
  | case1 => decide
  | case2 => simp
  | case3 low high rest ih =>
    rw [Option.map_eq_none_iff, ih, List.length_cons, List.length_cons]
    omega

theorem length_of_words? (decoded : words? bytes = some words) : bytes.length = 2 * words.length := by
  induction bytes using words?.induct generalizing words with
  | case1 =>
    obtain rfl := Option.some.inj decoded
    rfl
  | case2 => cases decoded
  | case3 low high rest ih =>
    obtain ⟨others, own, rfl⟩ := Option.map_eq_some_iff.mp decoded
    rw [List.length_cons, List.length_cons, List.length_cons, ih own]
    omega

theorem toNat_joinBytes (low high : Byte) : (joinBytes low high).toNat = low.toNat + 256 * high.toNat := by
  have small := low.isLt
  rw [joinBytes, BitVec.toNat_append, ← Nat.shiftLeft_add_eq_or_of_lt small, Nat.shiftLeft_eq, Nat.mul_comm]
  exact Nat.add_comm _ _

/-- A word stands at twice its position, the low byte first. -/
theorem getElem?_words? (decoded : words? bytes = some words) {index : Nat} {word : Word}
    (stored : words[index]? = some word) :
    ∃ low high, bytes[2 * index]? = some low ∧ bytes[2 * index + 1]? = some high ∧
      word.toNat = low.toNat + 256 * high.toNat := by
  induction bytes using words?.induct generalizing words index with
  | case1 =>
    obtain rfl := Option.some.inj decoded
    cases stored
  | case2 => cases decoded
  | case3 low high rest ih =>
    obtain ⟨others, own, rfl⟩ := Option.map_eq_some_iff.mp decoded
    cases index with
    | zero =>
      obtain rfl := Option.some.inj stored
      exact ⟨low, high, rfl, rfl, toNat_joinBytes low high⟩
    | succ index => exact ih own stored

theorem encodeWord_joinBytes (low high : Byte) : encodeWord (joinBytes low high) = [low, high] := by
  have value := toNat_joinBytes low high
  have lowSmall := low.isLt
  have highSmall := high.isLt
  have first : (joinBytes low high).setWidth 8 = low := by
    apply BitVec.eq_of_toNat_eq
    rw [BitVec.toNat_setWidth, value]
    omega
  have second : (joinBytes low high >>> 8).setWidth 8 = high := by
    apply BitVec.eq_of_toNat_eq
    rw [BitVec.toNat_setWidth, BitVec.toNat_ushiftRight, value, Nat.shiftRight_eq_div_pow]
    omega
  rw [encodeWord, first, second]

theorem encode_of_words? (decoded : words? bytes = some words) : encode words = bytes := by
  induction bytes using words?.induct generalizing words with
  | case1 =>
    obtain rfl := Option.some.inj decoded
    rfl
  | case2 => cases decoded
  | case3 low high rest ih =>
    obtain ⟨others, own, rfl⟩ := Option.map_eq_some_iff.mp decoded
    have later : encode others = rest := ih own
    rw [encode, List.flatMap_cons, encodeWord_joinBytes, ← encode, later]
    rfl

theorem encode_replicate_zero (count : Nat) : encode (List.replicate count 0) = List.replicate (2 * count) 0 := by
  induction count with
  | zero => rfl
  | succ count ih =>
    have later : encode (List.replicate count (0 : Word)) = List.replicate (2 * count) 0 := ih
    rw [List.replicate_succ, encode, List.flatMap_cons, ← encode, later]
    rfl

theorem ofRom_filled (size : Nat) (words : List Word) :
    ofRom (Rom.filled size words) = encode words ++ List.replicate (2 * (size - words.length)) 0 := by
  rw [ofRom, Rom.filled, encode, List.flatMap_append, ← encode, ← encode, encode_replicate_zero]

theorem decode_eq_ok_iff : decode bytes = .ok words ↔ words? bytes = some words := by
  unfold decode
  cases words? bytes <;> simp

theorem decode_eq_error_iff {cause : ImageError} :
    decode bytes = .error cause ↔ bytes.length % 2 = 1 ∧ cause = .oddLength bytes.length := by
  rw [← words?_eq_none_iff]
  unfold decode
  cases words? bytes <;> simp [eq_comm]

theorem decode_ofRom (rom : Rom) : decode (ofRom rom) = .ok rom.words.toList :=
  decode_eq_ok_iff.mpr (words?_encode _)

/-- What a memory makes of the words of some bytes. -/
structure Taken (rom : Rom) (bytes : List Byte) (words : List Word) : Prop where
  count : bytes.length = 2 * words.length
  pairs : ∀ index word, words[index]? = some word → ∃ low high, bytes[2 * index]? = some low ∧
    bytes[2 * index + 1]? = some high ∧ word.toNat = low.toNat + 256 * high.toNat
  refused : (∃ cause, rom.load (words.map fun word => (word.toNat : Int)) = .error cause) ↔
    2 * rom.size < bytes.length
  image : ∀ loaded, rom.load (words.map fun word => (word.toNat : Int)) = .ok loaded →
    loaded.size = rom.size ∧ ofRom loaded = bytes ++ List.replicate (2 * rom.size - bytes.length) 0

theorem taken_of_words? (rom : Rom) (decoded : words? bytes = some words) : Taken rom bytes words := by
  have double := length_of_words? decoded
  refine ⟨double, fun _ _ => getElem?_words? decoded, ?_, fun loaded success => ?_⟩
  · rw [Rom.load_codes]
    by_cases long : rom.size < words.length
    · exact iff_of_true ⟨_, Rom.loadWords_of_tooLong long⟩ (by omega)
    · refine iff_of_false ?_ (by omega)
      rw [Rom.loadWords_of_fits (by omega)]
      rintro ⟨_, failed⟩
      cases failed
  · rw [Rom.load_codes] at success
    by_cases long : rom.size < words.length
    · rw [Rom.loadWords_of_tooLong long] at success
      cases success
    · rw [Rom.loadWords_of_fits (by omega)] at success
      obtain rfl := Except.ok.inj success
      refine ⟨Rom.size_filled (by omega), ?_⟩
      rw [ofRom_filled, encode_of_words? decoded, double, ← Nat.mul_sub]

/-- The image of a memory decodes to its words, and any memory of that size that takes it becomes
the same. Bytes fail to decode exactly if their number is odd, and what they decode to fails to
fit exactly if there are more than two bytes for each word of the memory. A memory that takes it
has the image of these bytes with zeros behind them. -/
theorem image_round_trip (rom : Rom) (bytes : List Byte) :
    (decode (ofRom rom) = .ok rom.words.toList ∧
      ∀ other : Rom, other.size = rom.size → other.loadImage (ofRom rom) = .ok rom) ∧
    (∀ cause, decode bytes = .error cause ↔ bytes.length % 2 = 1 ∧ cause = .oddLength bytes.length) ∧
    ∀ words, decode bytes = .ok words → Taken rom bytes words := by
  refine ⟨⟨decode_ofRom rom, fun other sized => ?_⟩, fun cause => decode_eq_error_iff,
    fun words decoded => taken_of_words? rom (decode_eq_ok_iff.mp decoded)⟩
  have fits : rom.words.toList.length ≤ other.size := by
    rw [sized]
    exact Nat.le_refl _
  rw [Rom.loadImage, decode_ofRom]
  change (other.loadWords rom.words.toList).mapError LoadFailure.image = _
  rw [Rom.loadWords_of_fits fits, sized, Rom.filled_words]
  rfl

theorem image_round_trip_three_words :
    let rom : Rom := ⟨#[1, 2, 3]⟩
    let bytes : List Byte := [0x34, 0x12, 0x00, 0xE0]
    decode bytes = .ok [0x1234, 0xE000] ∧
      rom.load [0x1234, 0xE000] = .ok ⟨#[0x1234, 0xE000, 0]⟩ ∧
      ofRom ⟨#[0x1234, 0xE000, 0]⟩ = [0x34, 0x12, 0x00, 0xE0, 0, 0] ∧
      (⟨#[7, 7, 7]⟩ : Rom).loadImage (ofRom rom) = .ok rom := by
  intro rom bytes
  have trip := image_round_trip rom bytes
  have decoded : decode bytes = .ok [0x1234, 0xE000] := by decide
  have success : rom.load [0x1234, 0xE000] = .ok ⟨#[0x1234, 0xE000, 0]⟩ := by decide
  exact ⟨decoded, success, ((trip.2.2 _ decoded).image _ success).2, trip.1.2 ⟨#[7, 7, 7]⟩ rfl⟩

end Image

end HarvardBench

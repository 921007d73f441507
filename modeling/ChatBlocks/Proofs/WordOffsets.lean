import ChatBlocks.Proofs.BuilderForest
import ChatBlocks.Proofs.Slices
import ChatBlocks.Proofs.TextLines
import Mathlib.Tactic.ByContra

/-!
# The builder on bytes and machine words

The builder once more, with offsets of 64 bits over the bytes of the source.
Every step that a machine may refuse is an option whose `none` is the fault: an
index behind the end of the bytes, one less than zero, one more than the
greatest word. No sequence of events leads to a fault, and the tokens are those
of the builder on characters. What keeps the run in bounds is the test for an
escape: it succeeds only at a punctuation character with a backslash before it,
so an offset that passes it is neither zero nor the last word.
-/

namespace ChatBlocks.WordOffsets

open Markdown (Event LocatedEvent Span)
open Text Slices EventForest BuilderForest

structure WordSpan where
  start : UInt64
  stop : UInt64

def WordSpan.span (range : WordSpan) : Span :=
  ⟨range.start.toNat, range.stop.toNat⟩

structure WordEvent where
  event : Event
  range : WordSpan

def WordEvent.located (located : WordEvent) : LocatedEvent :=
  ⟨located.event, located.range.span⟩

def pred? (word : UInt64) : Option UInt64 :=
  if word = 0 then none else some (word - 1)

def succ? (word : UInt64) : Option UInt64 :=
  if word.toNat + 1 < UInt64.size then some (word + 1) else none

def bytesOf (text : String) : List UInt8 := text.toByteArray.data.toList

/-- The bytes in front of an index, which must not lie behind the end. -/
def bytesBefore? (bytes : List UInt8) (index : UInt64) : Option (List UInt8) :=
  if index.toNat ≤ bytes.length then some (bytes.take index.toNat) else none

/-- Whether escaped punctuation stands at an offset, decided byte by byte. -/
def escapedAtByte? (builder : Builder) (offset : UInt64) : Option Bool :=
  match (bytesOf builder.source)[offset.toNat]? with
  | none => some false
  | some byte =>
      if !isAsciiPunctuation (Char.ofNat byte.toNat) then some false
      else if byte == 0x7C && builder.stack.any fun frame => frame.kind.isTableCell then some false
      else
        (bytesBefore? (bytesOf builder.source) offset).map fun before =>
          (before.reverse.takeWhile (· == 0x5C)).length % 2 == 1

def pushLeaf (builder : Builder) (text : String) (range : WordSpan) : Builder :=
  builder.pushInline (.text text none (builder.raw range.span))

def pushPlainText? (builder : Builder) (text : String) (range : WordSpan) : Option Builder := do
  let escaped ← escapedAtByte? builder range.start
  match escaped, slice? text 1 text.utf8ByteSize with
  | true, some rest =>
      if (bytesOf text)[0]? = (bytesOf builder.source)[range.start.toNat]? then
        let first ← pred? range.start
        let last ← succ? range.start
        let marked := builder.pushInline (.other (builder.raw (WordSpan.span ⟨first, last⟩)))
        let next ← succ? range.start
        some (if rest.isEmpty then marked else pushLeaf marked rest ⟨next, range.stop⟩)
      else
        some (pushLeaf builder text range)
  | _, _ => some (pushLeaf builder text range)

def pushText? (builder : Builder) (text : String) (range : WordSpan) : Option Builder :=
  match builder.stack with
  | ⟨.code .., _⟩ :: _ => some (builder.pushText text range.span)
  | _ => pushPlainText? builder text range

/-- Takes one event. Only text computes with offsets; every other event hands
its range to `slice?` alone, which answers for every range. -/
def push? (builder : Builder) (located : WordEvent) : Option Builder :=
  match located.event with
  | .text text => pushText? builder text located.range
  | _ => some (builder.push located.located)

def tokens? (source : String) (options : LexOptions) (events : List WordEvent) :
    Option (List Token) :=
  (events.foldlM push? (Builder.start source options)).map Builder.finish

def encode (characters : List Char) : List UInt8 :=
  characters.flatMap String.utf8EncodeChar

theorem bytes_of_eq_encode (text : String) : bytesOf text = encode text.toList := by
  rw [bytesOf, ← String.utf8Encode_toList]
  exact List.toList_data_toByteArray

theorem encode_cons (character : Char) (rest : List Char) :
    encode (character :: rest) = String.utf8EncodeChar character ++ encode rest :=
  List.flatMap_cons

theorem length_encode (characters : List Char) :
    (encode characters).length = byteLength characters := by
  induction characters with
  | nil => rfl
  | cons character rest ih =>
      rw [encode_cons, List.length_append, String.length_utf8EncodeChar, ih, byteLength]

theorem encode_append (first second : List Char) :
    encode (first ++ second) = encode first ++ encode second :=
  List.flatMap_append

theorem utf8_size_eq_one_iff (character : Char) :
    character.utf8Size = 1 ↔ character.toNat < 0x80 := by
  rw [Char.utf8Size_eq_one_iff, UInt32.le_iff_toNat_le]
  exact Nat.lt_succ_iff.symm

theorem encode_ascii {character : Char} (ascii : character.toNat < 0x80) :
    String.utf8EncodeChar character = [UInt8.ofNat character.toNat] := by
  have small : character.val.toNat ≤ 0x7f := Nat.le_of_lt_succ ascii
  simp only [String.utf8EncodeChar, if_pos small]
  rfl

theorem encode_beyond_ascii {character : Char} (beyond : 0x80 ≤ character.toNat) :
    ∀ byte ∈ String.utf8EncodeChar character, 0x80 ≤ byte.toNat := by
  have large : ¬character.val.toNat ≤ 0x7f := Nat.not_le.mpr beyond
  intro byte member
  simp only [String.utf8EncodeChar, if_neg large] at member
  split at member
  · simp only [List.mem_cons, List.not_mem_nil, or_false] at member
    rcases member with rfl | rfl <;> rw [UInt8.toNat_ofNat'] <;> omega
  · split at member
    · simp only [List.mem_cons, List.not_mem_nil, or_false] at member
      rcases member with rfl | rfl | rfl <;> rw [UInt8.toNat_ofNat'] <;> omega
    · simp only [List.mem_cons, List.not_mem_nil, or_false] at member
      rcases member with rfl | rfl | rfl | rfl <;> rw [UInt8.toNat_ofNat'] <;> omega

/-- A byte below 0x80 is a character by itself, so it stands at a cursor. -/
theorem cursor_of_ascii_byte {characters : List Char} {index : Nat} {byte : UInt8}
    (found : (encode characters)[index]? = some byte) (ascii : byte.toNat < 0x80) :
    ∃ before character after, characters = before ++ character :: after ∧
      byteLength before = index ∧ character.toNat = byte.toNat := by
  induction characters generalizing index with
  | nil => simp [encode] at found
  | cons character rest ih =>
      rw [encode_cons] at found
      by_cases inside : index < character.utf8Size
      · rw [List.getElem?_append_left (by rw [String.length_utf8EncodeChar]; exact inside)] at found
        have small : character.toNat < 0x80 := by
          by_contra beyond
          have large := encode_beyond_ascii (Nat.le_of_not_lt beyond) byte
            (List.mem_of_getElem? found)
          omega
        rw [encode_ascii small] at found
        obtain ⟨rfl, same⟩ : index = 0 ∧ UInt8.ofNat character.toNat = byte := by
          simpa [List.getElem?_singleton] using found
        refine ⟨[], character, rest, rfl, rfl, ?_⟩
        rw [← same, UInt8.toNat_ofNat']
        omega
      · rw [List.getElem?_append_right (by rw [String.length_utf8EncodeChar]; omega),
          String.length_utf8EncodeChar] at found
        obtain ⟨before, next, after, split, length, code⟩ := ih found
        refine ⟨character :: before, next, after, by rw [split]; rfl, ?_, code⟩
        rw [byteLength, length]
        omega

theorem ascii_byte_of_cursor (before after : List Char) {character : Char}
    (ascii : character.toNat < 0x80) :
    (encode (before ++ character :: after))[byteLength before]? =
      some (UInt8.ofNat character.toNat) := by
  rw [encode_append, encode_cons, encode_ascii ascii, ← length_encode,
    List.getElem?_append_right (Nat.le_refl _), Nat.sub_self]
  rfl

/-- Backslashes counted over bytes are those counted over characters: no byte
of a longer character is one. The characters come nearest first. -/
theorem backslash_bytes (nearest : List Char) :
    ((encode nearest.reverse).reverse.takeWhile (· == 0x5C)).length =
      (nearest.takeWhile (· == '\\')).length := by
  induction nearest with
  | nil => rfl
  | cons character rest ih =>
      have bytes : (encode (character :: rest).reverse).reverse =
          (String.utf8EncodeChar character).reverse ++ (encode rest.reverse).reverse := by
        rw [List.reverse_cons, encode_append, List.reverse_append]
        simp [encode]
      by_cases backslash : character = '\\'
      · have one : String.utf8EncodeChar '\\' = [0x5C] := by decide
        rw [bytes, backslash, one]
        simp [ih]
      · obtain ⟨last, front, reversed⟩ :=
          List.exists_cons_of_ne_nil (List.reverse_ne_nil_iff.mpr
            (String.utf8EncodeChar_ne_nil (c := character)))
        have member : last ∈ String.utf8EncodeChar character := by
          rw [← List.mem_reverse, reversed]
          exact List.mem_cons_self
        have other : last ≠ 0x5C := by
          rintro rfl
          by_cases ascii : character.toNat < 0x80
          · rw [encode_ascii ascii] at member
            have code := congrArg UInt8.toNat (List.mem_singleton.mp member)
            rw [UInt8.toNat_ofNat', Nat.mod_eq_of_lt (by omega)] at code
            apply backslash
            rw [← Char.ofNat_toNat character, ← code]
            rfl
          · exact absurd (encode_beyond_ascii (Nat.le_of_not_lt ascii) 0x5C member) (by decide)
        rw [bytes, reversed]
        simp [other, backslash]

theorem punctuation_ascii {character : Char} (punctuation : isAsciiPunctuation character = true) :
    character.toNat < 0x80 := by
  simp only [isAsciiPunctuation, Bool.or_eq_true, Bool.and_eq_true, decide_eq_true_eq] at punctuation
  omega

theorem escaped_at_eq_some_iff (builder : Builder) (offset : Nat) (escaped : Char) :
    builder.escapedAt? offset = some escaped ↔
      ∃ before after, builder.source.toList = before.reverse ++ escaped :: after ∧
        byteLength before = offset ∧ isAsciiPunctuation escaped = true ∧
        (escaped == '|' && builder.stack.any fun frame => frame.kind.isTableCell) = false ∧
        (before.takeWhile (· == '\\')).length % 2 = 1 := by
  unfold Builder.escapedAt?
  constructor
  · intro found
    split at found
    · rename_i before character after cursor
      obtain ⟨split, length⟩ := (cursor_eq_some_iff _ _ _).mp cursor
      split at found
      · rename_i conditions
        obtain rfl := Option.some.inj found
        simp only [Bool.and_eq_true, Bool.not_eq_true', beq_iff_eq] at conditions
        exact ⟨before, after, split, length, conditions.1.1, conditions.1.2, conditions.2⟩
      · cases found
    · cases found
  · rintro ⟨before, after, split, length, punctuation, outside, odd⟩
    have cursor : cursorAt? builder.source offset = some ⟨before, escaped :: after⟩ :=
      (cursor_eq_some_iff _ _ _).mpr ⟨split, length⟩
    simp [cursor, punctuation, outside, odd]

theorem escaped_at_ascii_byte (builder : Builder) (offset : UInt64) {byte : UInt8}
    (found : (encode builder.source.toList)[offset.toNat]? = some byte)
    (ascii : byte.toNat < 0x80) :
    escapedAtByte? builder offset = some (builder.escapedAt? offset.toNat).isSome := by
  obtain ⟨before, character, after, split, length, code⟩ := cursor_of_ascii_byte found ascii
  have same : Char.ofNat byte.toNat = character := by rw [← code, Char.ofNat_toNat]
  have pipe : (byte == 0x7C) = (character == '|') := by
    rw [← same, Bool.eq_iff_iff, beq_iff_eq, beq_iff_eq]
    constructor
    · rintro rfl
      rfl
    · intro bar
      have codes := congrArg Char.toNat (same.symm.trans bar)
      exact UInt8.toNat_inj.mp (code.symm.trans codes)
  have cursor : cursorAt? builder.source offset.toNat =
      some ⟨before.reverse, character :: after⟩ := by
    rw [cursor_eq_some_iff, List.reverse_reverse, byte_length_reverse]
    exact ⟨split, length⟩
  have inside : bytesBefore? (encode builder.source.toList) offset = some (encode before) := by
    have bound : (encode before).length = offset.toNat := by rw [length_encode, length]
    rw [bytesBefore?, split, encode_append, List.length_append, if_pos (by omega), ← bound,
      List.take_left]
  have count := backslash_bytes before.reverse
  rw [List.reverse_reverse] at count
  simp only [escapedAtByte?, bytes_of_eq_encode, found, same, pipe, inside,
    Builder.escapedAt?, cursor, Option.map_some, count]
  cases isAsciiPunctuation character with
  | false => rfl
  | true =>
      cases (character == '|' && builder.stack.any fun frame => frame.kind.isTableCell) with
      | true => rfl
      | false =>
          cases (before.reverse.takeWhile (· == '\\')).length % 2 == 1 <;> rfl

theorem escaped_at_byte (builder : Builder) (offset : UInt64) :
    escapedAtByte? builder offset = some (builder.escapedAt? offset.toNat).isSome := by
  by_cases ascii : ∃ byte, (encode builder.source.toList)[offset.toNat]? = some byte ∧
      byte.toNat < 0x80
  · obtain ⟨byte, found, small⟩ := ascii
    exact escaped_at_ascii_byte builder offset found small
  · have unescaped : builder.escapedAt? offset.toNat = none := by
      cases escape : builder.escapedAt? offset.toNat with
      | none => rfl
      | some escaped =>
          obtain ⟨before, after, split, length, punctuation, -, -⟩ :=
            (escaped_at_eq_some_iff builder _ escaped).mp escape
          have small := punctuation_ascii punctuation
          have byte := ascii_byte_of_cursor before.reverse after small
          rw [byte_length_reverse, length, ← split] at byte
          refine absurd ⟨_, byte, ?_⟩ ascii
          rw [UInt8.toNat_ofNat']
          omega
    rw [unescaped, escapedAtByte?, bytes_of_eq_encode]
    cases found : (encode builder.source.toList)[offset.toNat]? with
    | none => rfl
    | some byte =>
        have large : 0x80 ≤ byte.toNat :=
          Nat.le_of_not_lt fun small => ascii ⟨byte, found, small⟩
        have plain : isAsciiPunctuation (Char.ofNat byte.toNat) = false := by
          have bound := byte.toNat_lt
          have valid : byte.toNat.isValidChar := Or.inl (by omega)
          have code : (Char.ofNat byte.toNat).toNat = byte.toNat := by
            rw [Char.ofNat, dif_pos valid]
            rfl
          refine Bool.eq_false_iff.mpr fun punctuation => ?_
          have small := punctuation_ascii punctuation
          omega
        simp only [plain]
        rfl

theorem strip_single_line (depth : Nat) {text : String} (single : '\n' ∉ text.toList) :
    stripContinuationLines depth text = text := by
  have lines : splitLines text.toList = [text.toList] := by
    rw [TextLines.split_lines_eq_split_on]
    exact List.splitOn_eq_singleton single
  simp [stripContinuationLines, lines, joinLines]

/-- On one line the depth of quotes makes no difference to a source. -/
theorem raw_of_single_line {builder : Builder} {span : Span} {text : String}
    (slice : IsSlice builder.source span text) (single : '\n' ∉ text.toList) :
    builder.raw span = text := by
  have found := (slice_eq_some_iff builder.source span.start span.stop text).mpr slice
  unfold Builder.raw
  simp only [found, Option.getD_some, strip_single_line _ single, ite_self]

theorem escape_text (escaped : Char) :
    String.ofList ['\\', escaped] = "\\" ++ String.singleton escaped := by
  rw [← String.toList_inj]
  simp

theorem escape_split {builder : Builder} {offset : Nat} {escaped : Char}
    (escape : builder.escapedAt? offset = some escaped) :
    ∃ before after, builder.source = before ++ "\\" ++ String.singleton escaped ++ after ∧
      before.utf8ByteSize + 1 = offset ∧ isAsciiPunctuation escaped = true := by
  obtain ⟨before, after, split, length, punctuation, -, odd⟩ :=
    (escaped_at_eq_some_iff builder offset escaped).mp escape
  cases before with
  | nil => simp at odd
  | cons nearest rest =>
      obtain rfl : nearest = '\\' := by
        by_contra other
        simp [other] at odd
      have behind : 1 + byteLength rest = offset := length
      refine ⟨String.ofList rest.reverse, String.ofList after, ?_, ?_, punctuation⟩
      · rw [← String.toList_inj, split]
        simp
      · rw [utf8_byte_size_of_list, byte_length_reverse, Nat.add_comm]
        exact behind

theorem escaped_at_bounds {builder : Builder} {offset : Nat} {escaped : Char}
    (escape : builder.escapedAt? offset = some escaped) :
    0 < offset ∧ offset < builder.source.utf8ByteSize := by
  obtain ⟨before, after, split, length, -⟩ := escape_split escape
  have positive := escaped.utf8Size_pos
  have backslash : "\\".utf8ByteSize = 1 := by decide
  simp only [split, String.utf8ByteSize_append, String.utf8ByteSize_singleton, backslash]
  omega

/-- The source of an escape is its backslash and the character behind it, with no
line break between the two. -/
theorem raw_of_escape {builder : Builder} {offset : Nat} {escaped : Char}
    (escape : builder.escapedAt? offset = some escaped) :
    builder.raw ⟨offset - 1, offset + 1⟩ = String.ofList ['\\', escaped] := by
  obtain ⟨before, after, split, length, punctuation⟩ := escape_split escape
  have visible : '\n' ≠ escaped := by
    rintro rfl
    exact absurd punctuation (by decide)
  have slice : IsSlice builder.source ⟨offset - 1, offset + 1⟩
      ("\\" ++ String.singleton escaped) := by
    have backslash : "\\".utf8ByteSize = 1 := by decide
    have single := (utf8_size_eq_one_iff escaped).mpr (punctuation_ascii punctuation)
    refine ⟨before, after, ?_, Nat.eq_sub_of_add_eq length, ?_⟩
    · simp only [split, String.append_assoc]
    · simp only [String.utf8ByteSize_append, String.utf8ByteSize_singleton, backslash, single]
      omega
  rw [escape_text]
  exact raw_of_single_line slice (by simp [visible])

theorem pred_of_positive {word : UInt64} (positive : 0 < word.toNat) :
    pred? word = some (word - 1) ∧ (word - 1).toNat = word.toNat - 1 := by
  have nonzero : word ≠ 0 := by
    rintro rfl
    exact absurd positive (by decide)
  have least : (1 : UInt64) ≤ word := UInt64.le_iff_toNat_le.mpr positive
  exact ⟨if_neg nonzero, UInt64.toNat_sub_of_le _ _ least⟩

theorem succ_of_bounded {word : UInt64} (bounded : word.toNat + 1 < UInt64.size) :
    succ? word = some (word + 1) ∧ (word + 1).toNat = word.toNat + 1 := by
  refine ⟨if_pos bounded, ?_⟩
  rw [UInt64.toNat_add]
  exact Nat.mod_eq_of_lt bounded

/-- What a text leaves when its first byte is taken away: nothing of a text
whose first character is longer than one byte. -/
theorem slice_behind_first {text : String} {first : Char} {rest : List Char}
    (split : text.toList = first :: rest) :
    slice? text 1 text.utf8ByteSize =
      if first.toNat < 0x80 then some (String.ofList rest) else none := by
  split
  · rename_i ascii
    rw [slice_eq_some_iff]
    refine ⟨String.singleton first, "", ?_, ?_, ?_⟩
    · rw [← String.toList_inj, split]
      simp
    · rw [String.utf8ByteSize_singleton]
      exact (utf8_size_eq_one_iff first).mpr ascii
    · rw [utf8_byte_size, utf8_byte_size, split]
      simp
  · rename_i beyond
    have invalid : ∀ inside, ¬IsSlice text ⟨1, text.utf8ByteSize⟩ inside := by
      rintro inside ⟨before, after, whole, single, -⟩
      rw [utf8_byte_size] at single
      cases characters : before.toList with
      | nil =>
          rw [characters] at single
          cases single
      | cons character more =>
          have same : character = first := by
            have lists := congrArg String.toList whole
            rw [split] at lists
            simp only [String.toList_append, characters, List.cons_append] at lists
            exact (List.cons.inj lists).1.symm
          have positive := first.utf8Size_pos
          rw [characters, byteLength, same] at single
          change first.utf8Size + byteLength more = 1 at single
          exact beyond ((utf8_size_eq_one_iff first).mp (by omega))
    exact slice_eq_none invalid

theorem first_bytes_agree_iff {text : String} {first : Char} {rest : List Char} {other : Char}
    (split : text.toList = first :: rest) (ascii : first.toNat < 0x80)
    (otherAscii : other.toNat < 0x80) :
    (bytesOf text)[0]? = some (UInt8.ofNat other.toNat) ↔ first = other := by
  have byte : (bytesOf text)[0]? = some (UInt8.ofNat first.toNat) := by
    rw [bytes_of_eq_encode, split]
    exact ascii_byte_of_cursor [] rest ascii
  rw [byte, Option.some.injEq]
  constructor
  · intro bytes
    have codes := congrArg UInt8.toNat bytes
    rw [UInt8.toNat_ofNat', UInt8.toNat_ofNat', Nat.mod_eq_of_lt (by omega),
      Nat.mod_eq_of_lt (by omega)] at codes
    rw [← Char.ofNat_toNat first, codes, Char.ofNat_toNat]
  · rintro rfl
    rfl

/-- The step lemma for text: with bytes and words it does what it does with
characters, and it never faults. -/
theorem push_plain_text_word (builder : Builder) (text : String) (range : WordSpan)
    (addressable : builder.source.utf8ByteSize < UInt64.size) :
    pushPlainText? builder text range = some (builder.pushPlainText text range.span) := by
  have start : range.span.start = range.start.toNat := rfl
  simp only [pushPlainText?, Builder.pushPlainText, escaped_at_byte, start]
  cases escape : builder.escapedAt? range.start.toNat with
  | none => rfl
  | some escaped =>
      cases split : text.toList with
      | nil =>
          obtain rfl : text = "" := String.toList_eq_nil_iff.mp split
          rfl
      | cons first rest =>
          obtain ⟨before, after, whole, length, punctuation, -, -⟩ :=
            (escaped_at_eq_some_iff builder _ escaped).mp escape
          have escapedAscii := punctuation_ascii punctuation
          have byte : (bytesOf builder.source)[range.start.toNat]? =
              some (UInt8.ofNat escaped.toNat) := by
            have found := ascii_byte_of_cursor before.reverse after escapedAscii
            rw [byte_length_reverse, length, ← whole] at found
            rw [bytes_of_eq_encode, found]
          simp only [slice_behind_first split, byte]
          by_cases same : first = escaped
          · obtain ⟨positive, inside⟩ := escaped_at_bounds escape
            have ascii : first.toNat < 0x80 := same ▸ escapedAscii
            obtain ⟨pred, predValue⟩ := pred_of_positive positive
            have bounded : range.start.toNat + 1 < UInt64.size := by omega
            obtain ⟨succ, succValue⟩ := succ_of_bounded bounded
            have agree := (first_bytes_agree_iff split ascii escapedAscii).mpr same
            have marker : WordSpan.span ⟨range.start - 1, range.start + 1⟩ =
                ⟨range.start.toNat - 1, range.start.toNat + 1⟩ := by
              rw [WordSpan.span, predValue, succValue]
            have remaining : WordSpan.span ⟨range.start + 1, range.stop⟩ =
                ⟨range.start.toNat + 1, range.span.stop⟩ := by
              rw [WordSpan.span, succValue]
              rfl
            have empty : (String.ofList rest).isEmpty = rest.isEmpty := by
              cases rest <;> simp
            simp only [agree, same, escapedAscii, pred, succ, if_true, Option.isSome_some,
              Option.bind_eq_bind, Option.bind_some, pushLeaf, marker, remaining, empty]
          · by_cases ascii : first.toNat < 0x80
            · have differ := mt (first_bytes_agree_iff split ascii escapedAscii).mp same
              simp only [ascii, differ, same, if_true, if_false]
              rfl
            · simp only [ascii, same, if_false]
              rfl

theorem push_text_word (builder : Builder) (text : String) (range : WordSpan)
    (addressable : builder.source.utf8ByteSize < UInt64.size) :
    pushText? builder text range = some (builder.pushText text range.span) := by
  have plain := push_plain_text_word builder text range addressable
  unfold pushText?
  split
  · rfl
  · rename_i outside
    rw [plain]
    unfold Builder.pushText
    split
    · rename_i lang code tokens below inside
      exact absurd inside (outside lang code tokens below)
    · rfl

theorem push_word (builder : Builder) (located : WordEvent)
    (addressable : builder.source.utf8ByteSize < UInt64.size) :
    push? builder located = some (builder.push located.located) := by
  obtain ⟨event, range⟩ := located
  cases event with
  | text text => exact push_text_word builder text range addressable
  | _ => rfl

theorem source_push (builder : Builder) (located : LocatedEvent) :
    (builder.push located).source = builder.source := by
  obtain ⟨event, span⟩ := located
  cases role : roleOf event with
  | enter tag =>
      obtain rfl : event = Event.enter tag := event_of_role role
      rfl
  | leave =>
      obtain rfl : event = Event.leave := event_of_role role
      exact (leave_keeps builder span).2
  | leaf leaf =>
      obtain rfl : event = leaf.event := event_of_role role
      exact (push_leaf_keeps builder leaf span).2

theorem push_all_word (events : List WordEvent) (builder : Builder)
    (addressable : builder.source.utf8ByteSize < UInt64.size) :
    events.foldlM push? builder = some (builder.pushAll (events.map WordEvent.located)) := by
  induction events generalizing builder with
  | nil => rfl
  | cons located rest ih =>
      have later := ih (builder.push located.located) (by rw [source_push]; exact addressable)
      rw [List.foldlM_cons, push_word builder located addressable]
      exact later

/-- The builder after an escape: its leaf, and the rest of the text if any. -/
def afterEscape (builder : Builder) (escaped : Char) (rest : String) (span : Span) : Builder :=
  let marked := builder.pushInline (.other (String.ofList ['\\', escaped]))
  if rest.isEmpty then marked else marked.pushInline (.text rest none (marked.raw span))

/-- What text does to the builder: code takes it as it is, and elsewhere it is
one leaf, unless it starts with an escaped character. -/
def TextEffect (builder : Builder) (text : String) (span : Span) : Prop :=
  (∃ lang code tokens below, builder.stack = ⟨.code lang code, tokens⟩ :: below ∧
    builder.pushText text span =
      { builder with stack := ⟨.code lang (code ++ text), tokens⟩ :: below }) ∨
  builder.pushText text span = builder.pushInline (.text text none (builder.raw span)) ∨
  ∃ escaped rest, builder.escapedAt? span.start = some escaped ∧
    isAsciiPunctuation escaped = true ∧ text = String.singleton escaped ++ rest ∧
    builder.pushText text span = afterEscape builder escaped rest ⟨span.start + 1, span.stop⟩

theorem push_plain_text_cases (builder : Builder) (text : String) (span : Span) :
    builder.pushPlainText text span = builder.pushInline (.text text none (builder.raw span)) ∨
      ∃ escaped rest, builder.escapedAt? span.start = some escaped ∧
        isAsciiPunctuation escaped = true ∧ text = String.singleton escaped ++ rest ∧
        builder.pushPlainText text span =
          afterEscape builder escaped rest ⟨span.start + 1, span.stop⟩ := by
  cases escape : builder.escapedAt? span.start with
  | none =>
      left
      simp only [Builder.pushPlainText, escape]
  | some escaped =>
      obtain ⟨-, -, -, -, punctuation, -, -⟩ :=
        (escaped_at_eq_some_iff builder _ escaped).mp escape
      cases split : text.toList with
      | nil =>
          left
          simp only [Builder.pushPlainText, escape, split]
      | cons first rest =>
          by_cases same : first = escaped
          · right
            have parts : text = String.singleton escaped ++ String.ofList rest := by
              rw [← String.toList_inj, split, same]
              simp
            have empty : (String.ofList rest).isEmpty = rest.isEmpty := by
              cases rest <;> simp
            refine ⟨escaped, String.ofList rest, rfl, punctuation, parts, ?_⟩
            simp only [Builder.pushPlainText, escape, split, same, if_true, afterEscape,
              raw_of_escape escape, empty]
          · left
            simp only [Builder.pushPlainText, escape, split, if_neg same]

theorem text_effect (builder : Builder) (text : String) (span : Span) :
    TextEffect builder text span := by
  have plain := push_plain_text_cases builder text span
  unfold TextEffect Builder.pushText
  split
  · rename_i lang code tokens below inside
    exact Or.inl ⟨lang, code, tokens, below, inside, rfl⟩
  · exact Or.inr plain

theorem raw_of_invalid (builder : Builder) (span : Span)
    (invalid : ∀ inside, ¬IsSlice builder.source span inside) : builder.raw span = "" := by
  unfold Builder.raw
  rw [slice_eq_none invalid]
  split
  · rfl
  · rfl

/-- With bytes and 64-bit words no event leads to a fault, whatever its range,
and the tokens are the builder's. A range that is no slice has an empty source,
and an escape is always its backslash and its character. -/
theorem word_builder_never_faults (source : String)
    (addressable : source.utf8ByteSize < UInt64.size) (options : LexOptions)
    (events : List WordEvent) :
    tokens? source options events =
        some (tokensOfEvents source options (events.map WordEvent.located)) ∧
      ∀ builder : Builder, builder.source = source →
        (∀ span, (∀ inside, ¬IsSlice source span inside) → builder.raw span = "") ∧
          ∀ text span, TextEffect builder text span := by
  refine ⟨?_, ?_⟩
  · have run := push_all_word events (Builder.start source options) addressable
    rw [tokens?, run]
    rfl
  · rintro builder rfl
    exact ⟨raw_of_invalid builder, text_effect builder⟩

/-- An escape inside a quote, then text whose range is reversed and ends with
the greatest word. -/
theorem word_builder_escape_in_quote :
    "> \\*a".utf8ByteSize < UInt64.size ∧
      tokens? "> \\*a" {}
          [⟨.enter .blockquote, ⟨0, 5⟩⟩, ⟨.enter .paragraph, ⟨2, 5⟩⟩, ⟨.text "*a", ⟨3, 5⟩⟩,
            ⟨.text "*", ⟨18446744073709551615, 3⟩⟩, ⟨.leave, ⟨2, 5⟩⟩, ⟨.leave, ⟨0, 5⟩⟩] =
        some (tokensOfEvents "> \\*a" {}
          [⟨.enter .blockquote, ⟨0, 5⟩⟩, ⟨.enter .paragraph, ⟨2, 5⟩⟩, ⟨.text "*a", ⟨3, 5⟩⟩,
            ⟨.text "*", ⟨18446744073709551615, 3⟩⟩, ⟨.leave, ⟨2, 5⟩⟩, ⟨.leave, ⟨0, 5⟩⟩]) :=
  ⟨by decide, (word_builder_never_faults "> \\*a" (by decide) {} _).1⟩

end ChatBlocks.WordOffsets

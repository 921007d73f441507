import ChatBlocks.Json.Stream
import ChatBlocks.Proofs.JsonReading

/-!
# Streaming what was written

The readers that take a text element by element read back what was written, in
either layout and whatever follows. `TakesBack` says so of one reader and one
value, and each lemma carries it from the readers of the parts to the reader of
the whole.
-/

namespace ChatBlocks.JsonStreaming

open Json JsonLayout JsonScalars JsonReading

/-- From a text that starts, after white space, with a written value the
reader takes that value and nothing behind it. -/
def TakesBack {α : Type} (layout : Layout) (read : List Char → Reading α) (level : Nat)
    (value : Value) (result : α) : Prop :=
  ∀ input rest, skipSpace input = spell layout level value ++ rest →
    read input = .ok (result, rest)

variable {layout : Layout}

theorem takes_back_decoded {α β : Type} {read : List Char → Reading α} {decode : α → Option β}
    {level : Nat} {value : Value} {found : α} {result : β}
    (reads : TakesBack layout read level value found) (decodes : decode found = some result) :
    TakesBack layout (streamDecoded read decode) level value result := by
  intro input rest start
  simp only [streamDecoded, reads input rest start, decodes]

theorem stream_all_text {α : Type} {pretty : Bool} {read : List Char → Reading α} {value : Value}
    {result : α} (reads : TakesBack (layoutOf pretty) read 0 value result) :
    streamAll read (value.text pretty) = .ok result := by
  have taken := reads (value.text pretty).toList [] (skip_before_text pretty value)
  simp [streamAll, taken, skipSpace]

theorem length_le_later_elements (layout : Layout) (level : Nat) (values : List Value) :
    values.length ≤ (laterElements layout level values).length := by
  induction values with
  | nil => exact Nat.zero_le _
  | cons value more ih =>
      rw [later_elements_cons, spell_elements_cons]
      simp only [List.length_append, List.length_cons]
      omega

section Elements

variable {α : Type} {element : List Char → Reading α} {encode : α → Value} {level : Nat}

/-- One step of the element reader: before the first element nothing has to
stand, before any other a comma. -/
theorem stream_elements_step {first : Bool} {fuel : Nat} {found : List α}
    {input rest : List Char} {item : α}
    (reads : TakesBack layout element level (encode item) item)
    (start : skipSpace input = if first then spell layout level (encode item) ++ rest
      else ',' :: (layout.gap level ++ (spell layout level (encode item) ++ rest))) :
    streamElements element (fuel + 1) first found input =
      streamElements element fuel false (item :: found) rest := by
  obtain ⟨head, tail, split, starts⟩ := spell_head layout level (encode item)
  have taken := reads _ rest (skip_before_value layout level (encode item) rest)
  have behind_gap := skip_to_value layout (layout.gap_space level) level (encode item) rest
  rw [split, List.cons_append] at taken behind_gap start
  cases first with
  | true =>
      rw [if_pos rfl] at start
      simp [streamElements, start, starts.not_bracket, taken]
  | false =>
      rw [if_neg Bool.false_ne_true] at start
      simp [streamElements, start, behind_gap, starts.not_bracket, taken]

theorem stream_later_elements (outer : Nat) (rest : List Char) (items : List α)
    (reads : ∀ item ∈ items, TakesBack layout element level (encode item) item) :
    ∀ (fuel : Nat) (found : List α), items.length < fuel →
      streamElements element fuel false found
          (laterElements layout level (items.map encode) ++ (layout.gap outer ++ ']' :: rest)) =
        .ok (found.reverse ++ items, rest) := by
  induction items with
  | nil =>
      intro fuel found enough
      obtain ⟨fuel, rfl⟩ := Nat.exists_eq_succ_of_ne_zero (Nat.ne_of_gt enough)
      have closing : skipSpace (layout.gap outer ++ ']' :: rest) = ']' :: rest :=
        skip_to_closing layout outer rfl rest
      simp [laterElements, streamElements, closing]
  | cons item more ih =>
      intro fuel found enough
      obtain ⟨fuel, rfl⟩ := Nat.exists_eq_succ_of_ne_zero (Nat.ne_of_gt (Nat.zero_lt_of_lt enough))
      have behind := ih (fun other member => reads other (List.mem_cons_of_mem _ member)) fuel
        (item :: found) (by simpa using enough)
      rw [stream_elements_step (reads item List.mem_cons_self), behind]
      · simp
      · simp only [List.map_cons, later_elements_cons, spell_elements_cons, List.cons_append,
          List.append_assoc]
        exact skip_space_comma _

theorem takes_back_array {items : List α}
    (reads : ∀ item ∈ items, TakesBack layout element (level + 1) (encode item) item) :
    TakesBack layout (streamArray element) level (.array (items.map encode)) items := by
  intro input rest start
  cases items with
  | nil =>
      simp only [List.map_nil, spell, List.cons_append, List.nil_append] at start
      simp [streamArray, start, streamElements]
  | cons item more =>
      have later := stream_later_elements level rest more
        (fun other member => reads other (List.mem_cons_of_mem _ member))
      have many := length_le_later_elements layout (level + 1) (more.map encode)
      rw [List.length_map] at many
      simp only [List.map_cons, spell, spell_elements_cons, List.cons_append, List.append_assoc,
        List.nil_append] at start
      simp only [streamArray, start]
      rw [stream_elements_step (reads item List.mem_cons_self), later]
      · simp
      -- Every later element is behind a comma, so the text is long enough for the fuel.
      · simp only [List.length_append, List.length_cons]
        omega
      · exact skip_to_value layout (layout.gap_space (level + 1)) (level + 1) (encode item) _

end Elements

theorem next_member_end (first : Bool) {input rest : List Char}
    (start : skipSpace input = '\x7d' :: rest) : nextMember first input = .ok (false, rest) := by
  simp [nextMember, start]

theorem next_member_first {input rest : List Char} {key : String}
    (start : skipSpace input = (quote key).toList ++ rest) :
    nextMember true input = .ok (true, (quote key).toList ++ rest) := by
  rw [quote_characters, List.cons_append] at start ⊢
  simp [nextMember, start]

theorem next_member_later {level : Nat} (key : String) (rest : List Char) :
    nextMember false (',' :: (layout.gap level ++ ((quote key).toList ++ rest))) =
      .ok (true, (quote key).toList ++ rest) := by
  have behind := skip_to_key (layout.gap_space level) key rest
  obtain ⟨content, quoted⟩ : ∃ content, (quote key).toList = '"' :: content :=
    ⟨_, quote_characters key⟩
  rw [quoted, List.cons_append] at behind ⊢
  simp [nextMember, behind]

theorem stream_key_quoted (key : String) (rest : List Char) :
    streamKey ((quote key).toList ++ ':' :: rest) = .ok (key, rest) := by
  simp [streamKey, skip_before_key, read_quoted]

theorem stream_tag_quoted {names : List String} {name : String} (known : names.contains name = true)
    {gap : List Char} (space : ∀ character ∈ gap, isSpace character = true) (rest : List Char) :
    streamTag names (gap ++ ((quote name).toList ++ rest)) = .ok (name, rest) := by
  have start := skip_to_key space name rest
  have taken := read_quoted name rest
  obtain ⟨content, quoted⟩ : ∃ content, (quote name).toList = '"' :: content :=
    ⟨_, quote_characters name⟩
  rw [quoted, List.cons_append] at start taken ⊢
  simp only [streamTag, start, taken, known, if_true]

theorem length_le_later_members (layout : Layout) (level : Nat) (members : List (String × Value)) :
    members.length ≤ (laterMembers layout level members).length := by
  induction members with
  | nil => exact Nat.zero_le _
  | cons member more ih =>
      rw [later_members_cons, spell_members_cons]
      simp only [List.length_append, List.length_cons]
      omega

theorem stream_later_members (layout : Layout) (names : List String) {limit : Nat}
    (level outer : Nat) (tag : String) (rest : List Char) (members : List (String × Value))
    (untagged : ∀ member ∈ members, member.1 ≠ "type")
    (shallow : depthOfMembers members ≤ limit) (fits : membersFit members) :
    ∀ (fuel : Nat) (found : List (String × Value)), members.length < fuel →
      streamTaggedMembers names limit fuel false (some tag) found
          (laterMembers layout level members ++ (layout.gap outer ++ '\x7d' :: rest)) =
        .ok ((tag, .object (found.reverse ++ members)), rest) := by
  induction members with
  | nil =>
      intro fuel found enough
      obtain ⟨fuel, rfl⟩ := Nat.exists_eq_succ_of_ne_zero (Nat.ne_of_gt enough)
      have closing : skipSpace (layout.gap outer ++ '\x7d' :: rest) = '\x7d' :: rest :=
        skip_to_closing layout outer rfl rest
      have last := next_member_end false closing
      simp [laterMembers, streamTaggedMembers, last]
  | cons member more ih =>
      obtain ⟨key, value⟩ := member
      intro fuel found enough
      obtain ⟨fuel, rfl⟩ := Nat.exists_eq_succ_of_ne_zero (Nat.ne_of_gt (Nat.zero_lt_of_lt enough))
      rw [depthOfMembers] at shallow
      have behind := ih (fun other member => untagged other (List.mem_cons_of_mem _ member))
        (by omega) fits.2 fuel ((key, value) :: found) (by simpa using enough)
      have plain : key ≠ "type" := untagged (key, value) List.mem_cons_self
      have start := skip_to_value layout layout.after_colon_space level value
        (laterMembers layout level more ++ (layout.gap outer ++ '\x7d' :: rest))
      have taken := read_value_within layout value level limit _ _ start (by omega) fits.1
        (ends_number_of_later_members layout level outer more rest)
      rw [later_members_cons, spell_members_cons]
      simp only [List.cons_append, List.append_assoc, streamTaggedMembers, next_member_later,
        stream_key_quoted, if_neg plain, taken, behind]
      simp

theorem takes_back_tagged {names : List String} {level limit : Nat} {name : String}
    {members : List (String × Value)}
    (known : names.contains name = true) (untagged : ∀ member ∈ members, member.1 ≠ "type")
    (shallow : depthOfMembers members < limit) (fits : membersFit members) :
    TakesBack layout (streamTagged names limit) level
      (.object (("type", .string name) :: members)) (name, .object members) := by
  intro input rest start
  obtain ⟨limit, rfl⟩ := Nat.exists_eq_succ_of_ne_zero (Nat.ne_of_gt (Nat.zero_lt_of_lt shallow))
  simp only [spell, spell_members_cons, List.cons_append, List.append_assoc, List.nil_append]
    at start
  have tag := next_member_first (skip_to_key (layout.gap_space (level + 1)) "type"
    (':' :: (layout.afterColon ++ ((quote name).toList
      ++ (laterMembers layout (level + 1) members ++ (layout.gap level ++ '\x7d' :: rest))))))
  have named := stream_tag_quoted known layout.after_colon_space
    (laterMembers layout (level + 1) members ++ (layout.gap level ++ '\x7d' :: rest))
  have many := length_le_later_members layout (level + 1) members
  have later := stream_later_members layout names (level + 1) level name rest members untagged
    (Nat.le_of_lt_succ shallow) fits
  simp only [streamTagged, start, streamTaggedMembers, tag, stream_key_quoted, if_true, named]
  rw [later]
  · simp
  · simp only [List.length_append, List.length_cons]
    omega

theorem takes_back_field {α : Type} (name : String) {field : List Char → Reading α}
    {level : Nat} {value : Value} {result : α}
    (reads : TakesBack layout field (level + 1) value result) :
    TakesBack layout (streamField name field) level (.object [(name, value)]) result := by
  intro input rest start
  simp only [spell, spell_members_cons, laterMembers, List.flatMap_nil, List.cons_append,
    List.append_assoc, List.nil_append] at start
  have key := next_member_first (skip_to_key (layout.gap_space (level + 1)) name
    (':' :: (layout.afterColon ++ (spell layout (level + 1) value
      ++ (layout.gap level ++ '\x7d' :: rest)))))
  have taken := reads _ _ (skip_to_value layout layout.after_colon_space (level + 1) value
    (layout.gap level ++ '\x7d' :: rest))
  have closing : skipSpace (layout.gap level ++ '\x7d' :: rest) = '\x7d' :: rest :=
    skip_to_closing layout level rfl rest
  have last := next_member_end false closing
  obtain ⟨fuel, enough⟩ : ∃ fuel, ((layout.gap (level + 1) ++ ((quote name).toList
      ++ ':' :: (layout.afterColon ++ (spell layout (level + 1) value
        ++ (layout.gap level ++ '\x7d' :: rest))))).length) = fuel + 1 :=
    Nat.exists_eq_succ_of_ne_zero (by simp only [List.length_append, List.length_cons]; omega)
  simp only [streamField, start, enough, streamFieldMembers, key, stream_key_quoted, if_true, taken,
    last]
  simp

end ChatBlocks.JsonStreaming

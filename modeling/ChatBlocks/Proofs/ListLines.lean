import ChatBlocks.Proofs.ListWalk
import ChatBlocks.Proofs.TextLines

/-!
# A written list is the lines of its walk

Writing a list joins the texts of its items, and the text of an item joins its
own line with a whole list. Where every list that is reached has an item, these
nested joins are one join over the items in the order in which the walk meets
them. A list without items would leave an empty line behind the item around it.
-/

namespace ChatBlocks.ListLines

open Text ListWalk TextLines

def asList? : Token → Option ListBlock
  | .list ordered start items raw => some ⟨ordered, start, items, raw⟩
  | _ => none

def lastList? (tokens : List Token) : Option ListBlock :=
  (tokens.filterMap asList?).getLast?

theorem last_list_cons (token : Token) (rest : List Token) :
    lastList? (token :: rest) = (lastList? rest).or (asList? token) := by
  unfold lastList?
  rw [List.filterMap_cons]
  cases asList? token with
  | none => simp
  | some list =>
      simp only [List.getLast?_cons]
      cases (rest.filterMap asList?).getLast? <;> rfl

/-- The items that are written for a list `level` lists below the root. -/
def walk (level : Nat) (list : ListBlock) : List WrittenItem :=
  writtenItems level list.ordered list.start 0 list.items

theorem written_of_last_list (level : Nat) (tokens : List Token) :
    writtenOfLastList level tokens = (lastList? tokens).map (walk level) := by
  induction tokens with
  | nil => rfl
  | cons token rest ih =>
      have own : writtenIfList level token = (asList? token).map (walk level) := by
        cases token <;> rfl
      rw [writtenOfLastList, last_list_cons, ih, own]
      cases lastList? rest <;> rfl

theorem render_if_list (options : RenderOptions) (depth : Nat) (token : Token) :
    renderIfList options depth token = (asList? token).map (renderList options depth) := by
  cases token <;> rfl

theorem render_last_list (options : RenderOptions) (depth : Nat) (tokens : List Token) :
    renderLastList options depth tokens = (lastList? tokens).map (renderList options depth) := by
  induction tokens with
  | nil => rfl
  | cons token rest ih =>
      rw [renderLastList, last_list_cons, ih, render_if_list]
      cases lastList? rest <;> rfl

/-- The markup of an item's children that are no lists. A child that holds
tokens is written through them, without delimiters of its own. -/
def childrenMarkup (tokens : List Token) : String :=
  concat ((tokens.filter fun child => (asList? child).isNone).map fun child =>
    renderInline (child.children?.getD [child]))

theorem item_text_eq_children_markup (tokens : List Token) :
    itemText tokens = childrenMarkup tokens := by
  have part : itemPart = fun child => renderInline (child.children?.getD [child]) := by
    funext child
    unfold itemPart
    cases child.children? <;> simp [renderInline]
  have kept : (fun child : Token => !child.isList) = fun child => (asList? child).isNone := by
    funext child
    cases child <;> rfl
  rw [itemText, childrenMarkup, part, kept]

theorem written_items_from (level : Nat) (ordered : Bool) (start : UInt64) (position : Nat)
    (items : List ListItem) :
    writtenItems level ordered start position items =
      (items.zipIdx position).flatMap fun (item, index) =>
        ⟨level, ordered, itemNumber start index, childrenMarkup item.tokens⟩
          :: ((lastList? item.tokens).map (walk (level + 1))).getD [] := by
  induction items generalizing position with
  | nil => rfl
  | cons item rest ih =>
      obtain ⟨task, tokens, raw⟩ := item
      rw [writtenItems, written_of_last_list, ih, item_text_eq_children_markup, List.zipIdx_cons,
        List.flatMap_cons, List.cons_append]

/-- The lists that the walk of a list meets. -/
inductive Reached : ListBlock → ListBlock → Prop
  | root (list : ListBlock) : Reached list list
  | behind {list nested reached : ListBlock} (item : ListItem) (member : item ∈ list.items)
      (last : lastList? item.tokens = some nested) (inside : Reached nested reached) :
      Reached list reached

theorem forall_reached_iff (holds : ListBlock → Prop) (list : ListBlock) :
    (∀ reached, Reached list reached → holds reached) ↔ holds list ∧
      ∀ item ∈ list.items, ∀ nested, lastList? item.tokens = some nested →
        ∀ reached, Reached nested reached → holds reached := by
  constructor
  · intro every
    refine ⟨every list (.root list), ?_⟩
    intro item member nested last reached inside
    exact every reached (.behind item member last inside)
  · rintro ⟨own, behind⟩ reached inside
    cases inside with
    | root => exact own
    | behind item member last inside => exact behind item member _ last reached inside

theorem forall_reached_of_flat {holds : ListBlock → Prop} {list : ListBlock} (own : holds list)
    (flat : ∀ item ∈ list.items, lastList? item.tokens = none) :
    ∀ reached, Reached list reached → holds reached := by
  rw [forall_reached_iff]
  refine ⟨own, ?_⟩
  intro item member nested last
  rw [flat item member] at last
  nomatch last

def Filled (list : ListBlock) : Prop :=
  ∀ reached, Reached list reached → reached.items ≠ []

theorem filled_iff (list : ListBlock) :
    Filled list ↔ list.items ≠ [] ∧
      ∀ item ∈ list.items, ∀ nested, lastList? item.tokens = some nested → Filled nested :=
  forall_reached_iff (fun reached => reached.items ≠ []) list

/-- No item is numbered beyond the last machine word. -/
def NumbersFit (list : ListBlock) : Prop :=
  ∀ reached, Reached list reached → reached.ordered = true →
    ∀ index < reached.items.length, reached.start.toNat + index < UInt64.size

theorem item_number_of_fits {start : UInt64} {position : Nat}
    (fits : start.toNat + position < UInt64.size) :
    (itemNumber start position).toNat = start.toNat + position := by
  have position_fits : position < UInt64.size := by omega
  rw [itemNumber, UInt64.toNat_add, UInt64.toNat_ofNat_of_lt' position_fits]
  exact Nat.mod_eq_of_lt fits

theorem written_items_eq_nil_iff (level : Nat) (ordered : Bool) (start : UInt64)
    (position : Nat) (items : List ListItem) :
    writtenItems level ordered start position items = [] ↔ items = [] := by
  rcases items with _ | ⟨⟨task, tokens, raw⟩, rest⟩ <;> simp [writtenItems]

theorem render_items_eq_nil_iff (options : RenderOptions) (depth : Nat) (ordered : Bool)
    (start : UInt64) (position : Nat) (items : List ListItem) :
    renderItems options depth ordered start position items = [] ↔ items = [] := by
  rcases items with _ | ⟨⟨task, tokens, raw⟩, rest⟩ <;> simp [renderItems]

theorem walk_ne_nil (level : Nat) {list : ListBlock} (filled : Filled list) :
    walk level list ≠ [] := by
  intro none
  have empty := (written_items_eq_nil_iff level list.ordered list.start 0 list.items).mp none
  exact ((filled_iff list).mp filled).1 empty

/-- An item's text is joined from its own line and the lines of the list behind
it, so it may be replaced by them in the join of the whole list. -/
theorem join_lines_group {texts group later : List String} {joined : String}
    (some_line : group ≠ []) (own : joined = joinLines group)
    (rest : joinLines texts = joinLines later) (empty : texts = [] ↔ later = []) :
    joinLines (joined :: texts) = joinLines (group ++ later) := by
  by_cases last : later = []
  · simp [empty.mpr last, last, own, joinLines]
  · have more : texts ≠ [] := fun none => last (empty.mp none)
    rw [join_lines_append some_line last, ← own, ← rest]
    exact join_lines_append (List.cons_ne_nil joined []) more

mutual

/-- The induction follows the items and, through the tokens of an item, the
list it is followed by. -/
theorem join_items (options : RenderOptions) (depth level : Nat) (ordered : Bool)
    (start : UInt64) : ∀ (position : Nat) (items : List ListItem),
    (∀ item ∈ items, ∀ nested, lastList? item.tokens = some nested → Filled nested) →
    joinLines (renderItems options (depth + level) ordered start position items) =
      joinLines ((writtenItems level ordered start position items).map
        (WrittenItem.line options depth))
  | _, [], _ => rfl
  | position, ⟨task, tokens, raw⟩ :: rest, filled => by
      have later := join_items options depth level ordered start (position + 1) rest
        fun item member => filled item (List.mem_cons_of_mem _ member)
      have nested := join_last_list options depth (level + 1) tokens
      let own : WrittenItem := ⟨level, ordered, itemNumber start position, itemText tokens⟩
      have line : listIndent (depth + level) ++ itemMarker options ordered start position
          ++ itemText tokens = own.line options depth := rfl
      have empty : renderItems options (depth + level) ordered start (position + 1) rest = [] ↔
          (writtenItems level ordered start (position + 1) rest).map
            (WrittenItem.line options depth) = [] := by
        rw [List.map_eq_nil_iff, render_items_eq_nil_iff, written_items_eq_nil_iff]
      rw [renderItems, writtenItems, render_last_list, written_of_last_list, line, List.map_cons,
        List.map_append, ← List.cons_append]
      apply join_lines_group (List.cons_ne_nil _ _) ?_ later empty
      cases last : lastList? tokens with
      | none => rfl
      | some list =>
          have inside := filled _ List.mem_cons_self list last
          have lines : (walk (level + 1) list).map (WrittenItem.line options depth) ≠ [] := by
            simpa using walk_ne_nil (level + 1) inside
          have text := nested list last inside
          rw [← Nat.add_assoc] at text
          simp only [Option.map_some, Option.getD_some, text]
          exact (join_lines_append (List.cons_ne_nil _ []) lines).symm

theorem join_last_list (options : RenderOptions) (depth level : Nat) : ∀ (tokens : List Token)
    (list : ListBlock), lastList? tokens = some list → Filled list →
    renderList options (depth + level) list =
      joinLines ((walk level list).map (WrittenItem.line options depth))
  | [], list, last, _ => nomatch last
  | token :: rest, list, last, filled => by
      rw [last_list_cons] at last
      cases later : lastList? rest with
      | some other =>
          rw [later] at last
          obtain rfl : other = list := Option.some.inj last
          exact join_last_list options depth level rest other later filled
      | none =>
          rw [later] at last
          exact join_if_list options depth level token list last filled

theorem join_if_list (options : RenderOptions) (depth level : Nat) : ∀ (token : Token)
    (list : ListBlock), asList? token = some list → Filled list →
    renderList options (depth + level) list =
      joinLines ((walk level list).map (WrittenItem.line options depth))
  | .list ordered start items raw, list, same, filled => by
      obtain rfl : ⟨ordered, start, items, raw⟩ = list := Option.some.inj same
      exact join_items options depth level ordered start 0 items ((filled_iff _).mp filled).2
  | .text .., _, same, _ | .link .., _, same, _ | .image .., _, same, _ | .strong .., _, same, _
  | .em .., _, same, _ | .del .., _, same, _ | .codespan .., _, same, _ | .br .., _, same, _
  | .heading .., _, same, _ | .paragraph .., _, same, _ | .blockquote .., _, same, _
  | .code .., _, same, _ | .hr .., _, same, _ | .table .., _, same, _ | .space .., _, same, _
  | .html .., _, same, _ | .other .., _, same, _ => nomatch same

end

/-- A list is the join of one line for each item of its walk: two spaces for
each level, the item's number or the bullet, and its own text. The walk numbers
the items of a list from the list's start on and puts behind each item the walk
of the last list among its children, one level deeper. While the numbers fit,
they are the list's start and the item's position added up. -/
theorem render_list_eq_walk_lines (options : RenderOptions) (depth : Nat) (list : ListBlock)
    (filled : Filled list) (fit : NumbersFit list) :
    renderList options depth list =
        joinLines ((walk 0 list).map fun item =>
          String.ofList (List.replicate (2 * (depth + item.level)) ' ')
            ++ (if item.ordered then Nat.repr item.number.toNat ++ ". " else options.bullet)
            ++ item.text) ∧
      (∀ level list, walk level list =
        list.items.zipIdx.flatMap fun (item, index) =>
          ⟨level, list.ordered, itemNumber list.start index, childrenMarkup item.tokens⟩
            :: ((lastList? item.tokens).map (walk (level + 1))).getD []) ∧
      ∀ reached, Reached list reached → reached.ordered = true →
        ∀ index < reached.items.length,
          (itemNumber reached.start index).toNat = reached.start.toNat + index := by
  refine ⟨?_, ?_, ?_⟩
  · have items := ((filled_iff list).mp filled).2
    exact join_items options depth 0 list.ordered list.start 0 list.items items
  · intro level list
    exact written_items_from level list.ordered list.start 0 list.items
  · intro reached inside ordered index below
    exact item_number_of_fits (fit reached inside ordered index below)

def twoNestedLists : ListBlock :=
  ⟨true, 3, [
    ⟨none, [.paragraph [.strong [.text "a" none "a"] "**a**"] "**a**",
      .list false 1 [⟨none, [.text "left out" none "left out"], ""⟩] "",
      .list false 1 [⟨none, [.text "b" none "b"], ""⟩] ""], ""⟩,
    ⟨none, [.text "c" none "c"], ""⟩], ""⟩

theorem forall_reached_two_nested_lists (holds : ListBlock → Prop) (own : holds twoNestedLists)
    (behind : holds ⟨false, 1, [⟨none, [.text "b" none "b"], ""⟩], ""⟩) :
    ∀ reached, Reached twoNestedLists reached → holds reached := by
  rw [forall_reached_iff]
  refine ⟨own, ?_⟩
  intro item member nested last
  simp only [twoNestedLists, List.mem_cons, List.not_mem_nil, or_false] at member
  rcases member with rfl | rfl
  · obtain rfl := Option.some.inj last
    exact forall_reached_of_flat behind (by simp [lastList?, asList?])
  · nomatch last

theorem two_nested_lists_filled : Filled twoNestedLists :=
  forall_reached_two_nested_lists (fun reached => reached.items ≠ []) (List.cons_ne_nil _ _)
    (List.cons_ne_nil _ _)

theorem two_nested_lists_numbers_fit : NumbersFit twoNestedLists := by
  apply forall_reached_two_nested_lists
  · intro _
    decide
  · intro ordered
    nomatch ordered

theorem two_nested_lists_written :
    Filled twoNestedLists ∧ NumbersFit twoNestedLists ∧
      renderList ⟨"- ", true⟩ 1 twoNestedLists = "  3. *a*\n    - b\n  4. c" ∧
      (itemNumber twoNestedLists.start 1).toNat = 4 := by
  have written := render_list_eq_walk_lines ⟨"- ", true⟩ 1 twoNestedLists
    two_nested_lists_filled two_nested_lists_numbers_fit
  refine ⟨two_nested_lists_filled, two_nested_lists_numbers_fit, ?_, ?_⟩
  · exact written.1.trans (by decide +kernel)
  · exact written.2.2 twoNestedLists (.root _) rfl 1 (by decide)

/-- Behind the last machine word the numbers start again. -/
example : renderList {} 0 ⟨true, 18446744073709551615,
    [⟨none, [.text "a" none "a"], ""⟩, ⟨none, [.text "b" none "b"], ""⟩], ""⟩ =
      "18446744073709551615. a\n0. b" := by
  decide +kernel

end ChatBlocks.ListLines

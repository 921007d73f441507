import ChatBlocks.Render.Inline
import ChatBlocks.Render.Plain

/-!
# Markup and literal text

Markup asks what kind a token is; literal text takes its children, or its source
when it has none. Both meet the same leaves in the same order as long as every
leaf is written as its source is, so what tells the two texts apart is the
delimiters that wrapping adds.
-/

namespace ChatBlocks.Delimiters

def isDelimiter (character : Char) : Bool :=
  ['*', '_', '~'].contains character

def withoutDelimiters (text : String) : String :=
  String.ofList (text.toList.filter fun character => !isDelimiter character)

def DelimiterFree (text : String) : Prop :=
  ∀ character ∈ text.toList, isDelimiter character = false

instance (text : String) : Decidable (DelimiterFree text) :=
  List.decidableBAll (fun character => isDelimiter character = false) text.toList

/-- Text leaves, wrapped content, and leaves that are written as their source,
with a condition on what the leaves say. -/
inductive Spelled (allowed : String → Prop) : Token → Prop
  | text (text raw : String) (said : allowed text) : Spelled allowed (.text text none raw)
  | strong (tokens : List Token) (raw : String) (inside : ∀ token ∈ tokens, Spelled allowed token) :
      Spelled allowed (.strong tokens raw)
  | em (tokens : List Token) (raw : String) (inside : ∀ token ∈ tokens, Spelled allowed token) :
      Spelled allowed (.em tokens raw)
  | del (tokens : List Token) (raw : String) (inside : ∀ token ∈ tokens, Spelled allowed token) :
      Spelled allowed (.del tokens raw)
  | codespan (text : String) (said : allowed text) :
      Spelled allowed (.codespan text ("\x60" ++ text ++ "\x60"))
  | br : Spelled allowed (.br "\n")
  | html (raw : String) (said : allowed raw) : Spelled allowed (.html raw)
  | other (raw : String) (said : allowed raw) : Spelled allowed (.other raw)

theorem without_delimiters_append (first second : String) :
    withoutDelimiters (first ++ second) = withoutDelimiters first ++ withoutDelimiters second := by
  simp [withoutDelimiters]

theorem without_delimiters_of_free {text : String} (free : DelimiterFree text) :
    withoutDelimiters text = text := by
  rw [withoutDelimiters, List.filter_eq_self.mpr, String.ofList_toList]
  intro character member
  rw [free character member]
  rfl

theorem delimiter_free_append {first second : String} (left : DelimiterFree first)
    (right : DelimiterFree second) : DelimiterFree (first ++ second) := by
  intro character member
  rw [String.toList_append, List.mem_append] at member
  rcases member with before | behind
  · exact left character before
  · exact right character behind

theorem without_delimiters_wrap {delimiter : String} (deleted : withoutDelimiters delimiter = "")
    (text : String) : withoutDelimiters (Markup.wrap delimiter text) = withoutDelimiters text := by
  simp only [Markup.wrap, without_delimiters_append, deleted, String.empty_append,
    String.append_empty]

theorem sequences_agree {tokens : List Token}
    (agree : ∀ token ∈ tokens,
      withoutDelimiters (renderInlineToken token) = withoutDelimiters (plainTextOfToken token)) :
    withoutDelimiters (renderInline tokens) = withoutDelimiters (plainText tokens) := by
  induction tokens with
  | nil => rfl
  | cons token rest ih =>
      obtain ⟨own, later⟩ := List.forall_mem_cons.mp agree
      rw [renderInline, plainText, without_delimiters_append, without_delimiters_append, own,
        ih later]

/-- The two texts of a token agree once the delimiters are deleted from both,
whatever its leaves say. -/
theorem token_texts_agree {allowed : String → Prop} {token : Token}
    (spelled : Spelled allowed token) :
    withoutDelimiters (renderInlineToken token) = withoutDelimiters (plainTextOfToken token) := by
  induction spelled with
  | text text raw said => rfl
  | strong tokens raw inside ih | em tokens raw inside ih | del tokens raw inside ih =>
      rw [renderInlineToken, without_delimiters_wrap (by decide)]
      exact sequences_agree ih
  | codespan text said => rfl
  | br => rfl
  | html raw said => rfl
  | other raw said => rfl

theorem plain_text_free {tokens : List Token}
    (free : ∀ token ∈ tokens, DelimiterFree (plainTextOfToken token)) :
    DelimiterFree (plainText tokens) := by
  induction tokens with
  | nil => exact fun _ member => nomatch member
  | cons token rest ih =>
      obtain ⟨own, later⟩ := List.forall_mem_cons.mp free
      exact delimiter_free_append own (ih later)

theorem plain_token_free {token : Token} (spelled : Spelled DelimiterFree token) :
    DelimiterFree (plainTextOfToken token) := by
  induction spelled with
  | text text raw said => exact said
  | strong tokens raw inside ih | em tokens raw inside ih | del tokens raw inside ih =>
      exact plain_text_free ih
  | codespan text said =>
      have mark : DelimiterFree "\x60" := by decide
      exact delimiter_free_append (delimiter_free_append mark said) mark
  | br =>
      have newline : DelimiterFree "\n" := by decide
      exact newline
  | html raw said => exact said
  | other raw said => exact said

/-- Where no leaf holds a delimiter, deleting the delimiters of the markup leaves
the literal text. -/
theorem markup_without_delimiters {tokens : List Token}
    (spelled : ∀ token ∈ tokens, Spelled DelimiterFree token) :
    withoutDelimiters (renderInline tokens) = plainText tokens := by
  have agree := sequences_agree fun token member => token_texts_agree (spelled token member)
  have free := plain_text_free fun token member => plain_token_free (spelled token member)
  rw [agree, without_delimiters_of_free free]

/-- Emphasis with code and a break inside strong text, next to content that is
struck out and empty. -/
theorem nested_wrappings_leave_literal_text :
    let tokens : List Token :=
      [.strong [.text "a" none "a", .em [.codespan "b" "\x60b\x60", .br "\n"] "_\x60b\x60\n_"]
          "**a_\x60b\x60\n_**",
        .del [] "~~~~", .html "<kbd>", .other "[^1]"]
    (∀ token ∈ tokens, Spelled DelimiterFree token) ∧
      renderInline tokens = "*a_\x60b\x60\n_*~~<kbd>[^1]" ∧
      plainText tokens = "a\x60b\x60\n<kbd>[^1]" ∧
      withoutDelimiters (renderInline tokens) = plainText tokens := by
  intro tokens
  have emphasized : ∀ token ∈ [Token.codespan "b" "\x60b\x60", .br "\n"],
      Spelled DelimiterFree token := by
    rw [List.forall_mem_cons, List.forall_mem_singleton]
    exact ⟨.codespan "b" (by decide), .br⟩
  have strong : ∀ token ∈ [Token.text "a" none "a",
      .em [.codespan "b" "\x60b\x60", .br "\n"] "_\x60b\x60\n_"],
      Spelled DelimiterFree token := by
    rw [List.forall_mem_cons, List.forall_mem_singleton]
    exact ⟨.text "a" "a" (by decide), .em _ _ emphasized⟩
  have spelled : ∀ token ∈ tokens, Spelled DelimiterFree token := by
    simp only [tokens, List.forall_mem_cons]
    exact ⟨.strong _ _ strong, .del [] _ (by simp), .html _ (by decide), .other _ (by decide),
      by simp⟩
  exact ⟨spelled, by decide, by decide, markup_without_delimiters spelled⟩

end ChatBlocks.Delimiters

import ChatBlocks.Proofs.QuotedSections

/-!
# Code is carried verbatim

The text of a code block reaches its token piece by piece and as it is: no
escape is looked for in it, nothing is joined or stripped, and the ranges of the
pieces play no part, whatever containers are open around the block. One newline
at the end belongs to the block and is taken off. The section of a code token
opens with the fence and the language on one line and closes with the fence on
another, so its lines give the language and the text back, even when the text
has fences of its own.
-/

namespace ChatBlocks.VerbatimCode

open Markdown (CodeBlockKind LocatedEvent Span)
open Text TextLines

structure CodePiece where
  text : String
  span : Span

def CodePiece.event (piece : CodePiece) : LocatedEvent :=
  ⟨.text piece.text, piece.span⟩

def codeBlockEvents (kind : CodeBlockKind) (entered : Span) (pieces : List CodePiece) :
    List LocatedEvent :=
  ⟨.enter (.codeBlock kind), entered⟩ :: pieces.map CodePiece.event

def content (pieces : List CodePiece) : String :=
  concat (pieces.map CodePiece.text)

theorem content_cons (piece : CodePiece) (rest : List CodePiece) :
    content (piece :: rest) = piece.text ++ content rest := rfl

/-- Inside a code block a piece is put behind the text so far. -/
theorem push_piece {builder : Builder} {lang : Option String} {code : String}
    {tokens : List Token} {below : List Frame}
    (inside : builder.stack = ⟨.code lang code, tokens⟩ :: below) (piece : CodePiece) :
    builder.push piece.event =
      { builder with stack := ⟨.code lang (code ++ piece.text), tokens⟩ :: below } := by
  have taken : builder.push piece.event = builder.pushText piece.text piece.span := rfl
  rw [taken, Builder.pushText, inside]

theorem push_pieces (pieces : List CodePiece) {builder : Builder} {lang : Option String}
    {code : String} {tokens : List Token} {below : List Frame}
    (inside : builder.stack = ⟨.code lang code, tokens⟩ :: below) :
    builder.pushAll (pieces.map CodePiece.event) =
      { builder with stack := ⟨.code lang (code ++ content pieces), tokens⟩ :: below } := by
  induction pieces generalizing builder code with
  | nil => simp [Builder.pushAll, content, concat, ← inside]
  | cons piece rest ih =>
      have first := push_piece inside piece
      have later := ih (congrArg Builder.stack first)
      rw [first, String.append_assoc, ← content_cons] at later
      simpa only [Builder.pushAll, List.map_cons, List.foldl_cons, first] using later

theorem leave_code_block (builder : Builder) (kind : CodeBlockKind) (entered closed : Span)
    (pieces : List CodePiece) :
    (builder.pushAll (codeBlockEvents kind entered pieces)).leave closed =
      builder.pushBlock
        (.code (FrameKind.language kind) (Builder.dropFinalNewline (content pieces))
          (builder.raw closed)) closed := by
  have opened : (builder.enter (.codeBlock kind)).stack =
      ⟨.code (FrameKind.language kind) "", []⟩ :: builder.stack := rfl
  have filled := push_pieces pieces opened
  rw [String.empty_append] at filled
  have entering : builder.pushAll (codeBlockEvents kind entered pieces) =
      (builder.enter (.codeBlock kind)).pushAll (pieces.map CodePiece.event) := rfl
  rw [entering, filled]
  rfl

theorem tokens_of_code_block (source : String) (options : LexOptions) (kind : CodeBlockKind)
    (entered closed : Span) (pieces : List CodePiece) :
    tokensOfEvents source options (codeBlockEvents kind entered pieces ++ [⟨.leave, closed⟩]) =
      [.code (FrameKind.language kind) (Builder.dropFinalNewline (content pieces))
        ((Builder.start source options).raw closed)] := by
  have left := leave_code_block (Builder.start source options) kind entered closed pieces
  have whole : (Builder.start source options).pushAll
      (codeBlockEvents kind entered pieces ++ [⟨.leave, closed⟩]) =
        ((Builder.start source options).pushAll
          (codeBlockEvents kind entered pieces)).leave closed := by
    simp only [Builder.pushAll, List.foldl_append, List.foldl_cons, List.foldl_nil]
    rfl
  rw [tokensOfEvents, whole, left]
  rfl

theorem final_newline_dropped (text : String) :
    text = Builder.dropFinalNewline text ++ "\n" ∨
      Builder.dropFinalNewline text = text ∧ text.toList.getLast? ≠ some '\n' := by
  unfold Builder.dropFinalNewline
  split
  · rename_i rest ending
    left
    rw [← String.toList_inj, ← List.reverse_inj]
    simp [ending]
  · rename_i other
    right
    refine ⟨rfl, ?_⟩
    intro last
    obtain ⟨front, ending⟩ := List.getLast?_eq_some_iff.mp last
    exact other front.reverse (by simp [ending])

theorem language_of_info (info : String) :
    FrameKind.language (.fenced info) = if trim info = "" then none else some (trim info) := by
  simp only [FrameKind.language, nonEmpty, String.isEmpty_iff]

theorem lines_fenced_code {lang : Option String} (single : '\n' ∉ (lang.getD "").toList)
    (text : String) :
    lines (fencedCode lang text) =
      (Markup.fence ++ lang.getD "") :: (lines text ++ [Markup.fence]) := by
  have opening : '\n' ∉ (Markup.fence ++ lang.getD "").toList := by
    simpa [Markup.fence] using single
  have closing : '\n' ∉ Markup.fence.toList := by decide
  have whole : fencedCode lang text =
      Markup.fence ++ lang.getD "" ++ "\n" ++ (text ++ "\n" ++ Markup.fence) := by
    simp only [fencedCode, String.append_assoc]
  rw [whole, lines_append_newline, lines_append_newline, lines_of_no_newline opening,
    lines_of_no_newline closing, List.singleton_append]

theorem fenced_code_injective {lang other : Option String} {text otherText : String}
    (single : '\n' ∉ (lang.getD "").toList) (otherSingle : '\n' ∉ (other.getD "").toList)
    (same : fencedCode lang text = fencedCode other otherText) :
    text = otherText ∧ lang.getD "" = other.getD "" := by
  have cut := congrArg lines same
  rw [lines_fenced_code single, lines_fenced_code otherSingle] at cut
  obtain ⟨opening, behind⟩ := List.cons.inj cut
  have texts := congrArg joinLines (List.append_cancel_right behind)
  rw [QuotedSections.join_lines_of_text, QuotedSections.join_lines_of_text] at texts
  exact ⟨texts, (String.append_right_inj Markup.fence).mp opening⟩

/-- A code block adds one code token to whatever is open, with its content less
one final newline and with its trimmed info string as the language. At the top
level its section is both between fences. Two tokens whose languages are on one
line have the same section only when both texts and languages are the same. -/
theorem code_carried_verbatim (kind : CodeBlockKind) (pieces : List CodePiece) :
    (∃ lang text,
      (∀ (builder : Builder) (entered closed : Span),
        (builder.pushAll (codeBlockEvents kind entered pieces)).leave closed =
          builder.pushBlock (.code lang text (builder.raw closed)) closed) ∧
        (content pieces = text ++ "\n" ∨
          text = content pieces ∧ (content pieces).toList.getLast? ≠ some '\n') ∧
        (lang = match kind with
          | .indented => none
          | .fenced info => if trim info = "" then none else some (trim info)) ∧
        ∀ source lexOptions options entered closed,
          assemble options (tokensOfEvents source lexOptions
              (codeBlockEvents kind entered pieces ++ [⟨.leave, closed⟩])) =
            [.markupSection
              ("\x60\x60\x60" ++ lang.getD "" ++ "\n" ++ text ++ "\n" ++ "\x60\x60\x60")]) ∧
      ∀ options lang text raw other otherText otherRaw,
        '\n' ∉ (lang.getD "").toList → '\n' ∉ (other.getD "").toList →
        assemble options [.code lang text raw] = assemble options [.code other otherText otherRaw] →
        text = otherText ∧ lang.getD "" = other.getD "" := by
  have section_of_token : ∀ options lang text raw,
      assemble options [.code lang text raw] = [.markupSection (fencedCode lang text)] :=
    fun _ _ _ _ => rfl
  refine ⟨⟨FrameKind.language kind, Builder.dropFinalNewline (content pieces), ?_,
    final_newline_dropped (content pieces), ?_, ?_⟩, ?_⟩
  · intro builder entered closed
    exact leave_code_block builder kind entered closed pieces
  · cases kind with
    | indented => rfl
    | fenced info => exact language_of_info info
  · intro source lexOptions options entered closed
    rw [tokens_of_code_block, section_of_token, fencedCode, Markup.fence]
  · intro options lang text raw other otherText otherRaw single otherSingle same
    rw [section_of_token, section_of_token] at same
    apply fenced_code_injective single otherSingle
    simpa [Block.markupSection, TextObject.markup] using same

/-- Inside two quotes a fence and a star behind a backslash are content; a
missing language and an empty one give the same section. -/
theorem quoted_escape_and_fence_carried :
    let builder := (Builder.start "> > \x60\x60\x60 rust\n> > \\*\n" {}).pushAll
      [⟨.enter .blockquote, ⟨0, 22⟩⟩, ⟨.enter .blockquote, ⟨2, 22⟩⟩]
    let pieces : List CodePiece :=
      [⟨"\\", ⟨17, 18⟩⟩, ⟨"*\n\x60\x60", ⟨18, 20⟩⟩, ⟨"\x60\n\n", ⟨90, 7⟩⟩]
    builder.quoteDepth = 2 ∧
      (∃ raw, (builder.pushAll (codeBlockEvents (.fenced " rust") ⟨4, 22⟩ pieces)).leave ⟨4, 22⟩ =
        builder.pushBlock (.code (some "rust") "\\*\n\x60\x60\x60\n" raw) ⟨4, 22⟩) ∧
      assemble {} [.code none "a" ""] = assemble {} [.code (some "") "a" ""] ∧
      ("a" = "a" ∧ (none : Option String).getD "" = (some "").getD "") := by
  intro builder pieces
  obtain ⟨⟨lang, text, left, trimmed, language, -⟩, injective⟩ :=
    code_carried_verbatim (.fenced " rust") pieces
  have whole : content pieces = "\\*\n\x60\x60\x60\n" ++ "\n" := by decide
  have same : assemble {} [.code none "a" ""] = assemble {} [.code (some "") "a" ""] := by decide
  obtain rfl : text = "\\*\n\x60\x60\x60\n" := by
    rcases trimmed with ending | ⟨-, openEnd⟩
    · rw [whole] at ending
      exact ((String.append_left_inj "\n").mp ending).symm
    · exact absurd (by decide) openEnd
  obtain rfl : lang = some "rust" := language.trans (by decide)
  exact ⟨by decide, ⟨_, left builder ⟨4, 22⟩ ⟨4, 22⟩⟩, same,
    injective {} none "a" "" (some "") "a" "" (by decide) (by decide) same⟩

end ChatBlocks.VerbatimCode

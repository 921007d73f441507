import ChatBlocks.Proofs.QuoteMarkers

/-!
# Quoted sections

Lists, code and paragraphs give a section each at the top level, and a form of
their own inside a quote. The two forms are the same text: a quote of such
blocks holds the texts of their sections one below the other, behind a marker
on every line. The marker is two characters on every line, empty lines and the
last one included, so taking two characters off every line undoes it.
-/

namespace ChatBlocks.QuotedSections

open Text TextLines QuoteMarkers

/-- The blocks that give a section at the top level and are written in the same
form inside a quote. -/
def givesSection : Token → Bool
  | .list .. | .code .. => true
  | .paragraph tokens _ => !isBlank (renderInline tokens)
  | .text .. | .link .. | .image .. | .strong .. | .em .. | .del .. | .codespan .. | .br ..
  | .heading .. | .blockquote .. | .hr .. | .table .. | .space .. | .html .. | .other .. => false

def dropFromLines (count : Nat) (text : String) : String :=
  joinLines ((lines text).map fun line => String.ofList (line.toList.drop count))

theorem join_lines_of_text (text : String) : joinLines (lines text) = text := by
  rw [lines, join_split_lines, String.ofList_toList]

theorem lines_quote_lines (text : String) :
    lines (quoteLines text) = (lines text).map (quoteMarker ++ ·) := by
  have marked : ∀ line ∈ lines text, lines (quoteMarker ++ line) = [quoteMarker ++ line] := by
    intro line member
    obtain ⟨characters, inside, rfl⟩ := List.mem_map.mp member
    have single := newline_not_mem_line inside
    apply lines_of_no_newline
    simpa [quoteMarker] using single
  have some_line : (lines text).map (quoteMarker ++ ·) ≠ [] := by
    simp [BlankText.lines_ne_nil]
  rw [quoteLines, lines_join_lines some_line, List.flatMap_map, List.flatMap_congr marked,
    List.map_eq_flatMap]

theorem drop_quote_marker (text : String) : dropFromLines 2 (quoteLines text) = text := by
  have unmarked : ∀ line : String,
      String.ofList ((quoteMarker ++ line).toList.drop 2) = line := by
    intro line
    simp [quoteMarker]
  rw [dropFromLines, lines_quote_lines, List.map_map]
  simp only [Function.comp_def, unmarked, List.map_id', join_lines_of_text]

theorem section_of_token (options : RenderOptions) {token : Token}
    (gives : givesSection token = true) :
    (assembleToken options token).blocks = [.markupSection (quotedText options token)] := by
  cases token with
  | list ordered start items raw => rfl
  | code lang text raw => rfl
  | paragraph tokens raw =>
      have visible : isBlank (renderInline tokens) = false := by
        simpa [givesSection] using gives
      simp [assembleToken, visible, quotedText, Assembly.ofBlock]
  | _ => cases gives

theorem sections_of_tokens (options : RenderOptions) {tokens : List Token}
    (sections : ∀ token ∈ tokens, givesSection token = true) :
    assemble options tokens = (tokens.map (quotedText options)).map Block.markupSection := by
  induction tokens with
  | nil => rfl
  | cons token rest ih =>
      obtain ⟨own, later⟩ := List.forall_mem_cons.mp sections
      have first := section_of_token options own
      have behind := ih later
      unfold assemble at behind ⊢
      simp only [assembly, Assembly.append, first, behind, List.map_cons, List.singleton_append]

/-- A quote of lists, code and paragraphs that are not blank: at the top level
each of them gives one section, and the quote gives one section with the texts
of these, joined by newlines, behind a marker on every line. Without the first
two characters of every line that text is the joined texts again. -/
theorem quote_agrees_with_sections (options : RenderOptions) (children : List Token)
    (raw : String) (sections : ∀ child ∈ children, givesSection child = true) :
    ∃ texts : List String,
      List.Forall₂ (fun child text => assemble options [child] = [.markupSection text])
        children texts ∧
      assemble options children = texts.map Block.markupSection ∧
      ∃ quoted : String,
        assemble options [.blockquote children raw] = [.markupSection quoted] ∧
        lines quoted = (lines (joinLines texts)).map ("> " ++ ·) ∧
        dropFromLines 2 quoted = joinLines texts := by
  have each : ∀ child ∈ children,
      assemble options [child] = [.markupSection (quotedText options child)] := by
    intro child member
    have alone : ∀ other ∈ [child], givesSection other = true := by
      intro other inside
      obtain rfl := List.mem_singleton.mp inside
      exact sections other member
    exact sections_of_tokens options alone
  refine ⟨children.map (quotedText options), ?_, sections_of_tokens options sections,
    quoteText options children, rfl, lines_quote_lines _, drop_quote_marker _⟩
  rw [List.forall₂_map_right_iff, List.forall₂_same]
  exact each

/-- A paragraph of two lines, code with a blank line in it, and a list inside an
item. -/
theorem quoted_paragraph_code_and_list :
    let children : List Token :=
      [.paragraph [.text "a" none "a", .br "\n", .text "b" none "b"] "a\nb",
        .code none "x\n\ny" "    x\n\n    y",
        .list false 1
          [⟨none, [.text "c" (some [.text "c" none "c"]) "c",
              .list true 3 [⟨none, [.text "d" (some [.text "d" none "d"]) "d"], "3. d"⟩] "3. d"],
            "- c\n  3. d"⟩] "- c\n  3. d"]
    (∀ child ∈ children, givesSection child = true) ∧
      assemble {} [.blockquote children ""] =
        [.markupSection
          "> a\n> b\n> \x60\x60\x60\n> x\n> \n> y\n> \x60\x60\x60\n> • c\n>   3. d"] ∧
      ∃ texts : List String,
        List.Forall₂ (fun child text => assemble {} [child] = [.markupSection text])
          children texts ∧
        assemble {} children = texts.map Block.markupSection ∧
        ∃ quoted : String,
          assemble {} [.blockquote children ""] = [.markupSection quoted] ∧
          lines quoted = (lines (joinLines texts)).map ("> " ++ ·) ∧
          dropFromLines 2 quoted = joinLines texts := by
  intro children
  have sections : ∀ child ∈ children, givesSection child = true := by
    simp [children, givesSection, renderInline, renderInlineToken, isBlank, isWhiteSpace]
  exact ⟨sections, by decide, quote_agrees_with_sections {} children "" sections⟩

end ChatBlocks.QuotedSections

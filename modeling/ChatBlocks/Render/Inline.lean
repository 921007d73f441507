import ChatBlocks.Token.Basic

/-!
# Inline markup

The chat markup of an inline token sequence. Emphasis is wrapped in one
delimiter on each side, a link is written as its target and its label between
angle brackets, a break is a line feed, and a kind without markup is written
as its source, never dropped.
-/

namespace ChatBlocks

namespace Markup

def bold : String := "*"
def italic : String := "_"
def strike : String := "~"
def code : String := "\x60"
def linkOpen : String := "<"
def linkSeparator : String := "|"
def linkClose : String := ">"
def fence : String := "\x60\x60\x60"

def link (target label : String) : String :=
  linkOpen ++ target ++ linkSeparator ++ label ++ linkClose

def wrap (delimiter text : String) : String :=
  delimiter ++ text ++ delimiter

end Markup

mutual

def renderInlineToken : Token → String
  | .text text _ _ => text
  | .link href _ tokens _ => Markup.link href (renderInline tokens)
  | .image href _ text _ => Markup.link href text
  | .strong tokens _ => Markup.wrap Markup.bold (renderInline tokens)
  | .em tokens _ => Markup.wrap Markup.italic (renderInline tokens)
  | .del tokens _ => Markup.wrap Markup.strike (renderInline tokens)
  | .codespan text _ => Markup.wrap Markup.code text
  | .br _ => "\n"
  | .heading _ _ raw => raw
  | .paragraph _ raw => raw
  | .list _ _ _ raw => raw
  | .blockquote _ raw => raw
  | .code _ _ raw => raw
  | .hr raw => raw
  | .table _ _ raw => raw
  | .space raw => raw
  | .html raw => raw
  | .other raw => raw

def renderInline : List Token → String
  | [] => ""
  | token :: rest => renderInlineToken token ++ renderInline rest

end

end ChatBlocks

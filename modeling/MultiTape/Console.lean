import MultiTape.Table

/-!
# Consoles

Whatever the simulator says it hands to a console, and what becomes visible is up to the console. It
may fold what is wider than itself, leave out control characters, put a picture in the place of its
name, and draw a table as it likes. So the console is a parameter of all that prints. Only that it
refuses no text, and that it ends the line behind each, is known of it.

A text is handed over either as it is or marked up with tags in square brackets, which the console
does not show. It also knows how to escape a text so that nothing in it counts as a tag.

## Main definitions

* `Console`: the consoles
* `Console.print`, `Console.printMarkup`: what is put out for a text
* `Console.styled`, `Console.printError`: what is put out for a text in a style
* `Console.Shows`: the texts that a console shows as they are
-/

namespace MultiTape

/-- A console, by the text that it puts out; colours are no part of that. -/
structure Console where
  /-- A text with its tags escaped. -/
  escape : Text → Text
  /-- How it lays a text without markup out. -/
  layout : Text → Text
  /-- How it lays a marked-up text out. -/
  layoutMarkup : Text → Text
  /-- What it puts out for a table. -/
  printTable : Table → Text
  /-- What it puts out for a marked-up text before it reads a line. -/
  prompt : Text → Text

namespace Console

/-- Prints a text without markup, and ends the line. -/
def print (console : Console) (t : Text) : Text := console.layout t ++ "\n".toText

/-- Prints a marked-up text, and ends the line. -/
def printMarkup (console : Console) (t : Text) : Text := console.layoutMarkup t ++ "\n".toText

/-- The styles of text. -/
inductive Style where
  /-- For the transitions in a trace. -/
  | cyan
  /-- For errors. -/
  | red
  deriving DecidableEq, Repr

/-- The name of a style, as tags have it. -/
def Style.name : Style → Text
  | .cyan => "cyan".toText
  | .red => "red".toText

/-- A text in a style, escaped, behind some words that need no escaping. -/
def markUp (console : Console) (style : Style) (words t : Text) : Text :=
  "[".toText ++ style.name ++ "]".toText ++ words ++ console.escape t ++ "[/".toText ++
    style.name ++ "]".toText

/-- Prints a text in a style, escaped, behind some words that need no escaping. -/
def styled (console : Console) (style : Style) (words t : Text) : Text :=
  console.printMarkup (console.markUp style words t)

/-- Prints an error message. -/
def printError (console : Console) (message : Text) : Text :=
  console.styled .red "Error! ".toText message

/-- **What is relied on of a console** in order to know what becomes visible: a text that is `plain`
to it is shown as it is, whether or not it is in a style. Which texts are plain to a console depends
on its width, and on what it leaves out and replaces. -/
structure Shows (console : Console) (plain : Text → Prop) : Prop where
  /-- It shows a text without markup. -/
  layout_eq : ∀ t, plain t → console.layout t = t
  /-- It shows an escaped text, and the tags of its style vanish. -/
  layoutMarkup_eq : ∀ style words t, .char '[' ∉ words → .char '\\' ∉ words → plain (words ++ t) →
    console.layoutMarkup (console.markUp style words t) = words ++ t

namespace Shows

variable {console : Console} {plain : Text → Prop} {t message : Text}

theorem print_eq (h : console.Shows plain) (ht : plain t) : console.print t = t ++ "\n".toText := by
  rw [print, h.layout_eq t ht]

theorem styled_eq (h : console.Shows plain) (style : Style) (ht : plain t) :
    console.styled style [] t = t ++ "\n".toText := by
  rw [styled, printMarkup, h.layoutMarkup_eq style [] t (by simp) (by simp) ht, List.nil_append]

theorem printError_eq (h : console.Shows plain) (hmessage : plain ("Error! ".toText ++ message)) :
    console.printError message = "Error! ".toText ++ message ++ "\n".toText := by
  rw [printError, styled, printMarkup,
    h.layoutMarkup_eq .red _ message (by decide) (by decide) hmessage]

end Shows

theorem printError_ne_nil (console : Console) (message : Text) : console.printError message ≠ [] :=
  List.append_ne_nil_of_right_ne_nil _ (List.cons_ne_nil _ _)

end Console

end MultiTape

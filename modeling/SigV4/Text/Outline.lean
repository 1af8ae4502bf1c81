/-!
# Outlines of values

A value that is shown to a reader is shown as an outline: its name and its fields,
in braces. There are two layouts, everything on one line, and a line for each field
with an indent of four blanks. The indented layout indents what it is given, line
by line, so a field whose text has several lines keeps its shape.
-/

namespace SigV4

/-- **What a field shows**: a text as it is, or a text in parentheses behind a
name. -/
inductive Outline.Entry where
  /-- A text as it is. -/
  | plain (text : String)
  /-- A text in parentheses behind a name. -/
  | within (name text : String)

/-- **An outline**: a name and named fields. -/
structure Outline where
  /-- The name of the value. -/
  name : String
  /-- The fields, in order. -/
  fields : List (String × Outline.Entry)

namespace Outline

/-- A text that may be missing, as an entry. -/
def Entry.optional : Option String → Entry
  | none => .plain "None"
  | some text => .within "Some" text

/-- Puts four blanks in front of every line of a text. The flag says whether the
text begins a line. -/
def indent : (atStart : Bool) → List Char → List Char
  | _, [] => []
  | atStart, c :: cs =>
    (if atStart then [' ', ' ', ' ', ' '] else []) ++ c :: indent (c == '\n') cs

/-- A text with a comma behind it, as indented lines. -/
def indented (text : String) : String :=
  String.ofList (indent true (text ++ ",\n").toList)

/-! ### On one line -/

/-- An entry on one line. -/
def Entry.line : Entry → String
  | .plain text => text
  | .within name text => name ++ "(" ++ text ++ ")"

/-- **The layout on one line.** -/
def line (o : Outline) : String :=
  let fields := o.fields.map fun (name, entry) => name ++ ": " ++ entry.line
  o.name ++ " \x7b " ++ ", ".intercalate fields ++ " \x7d"

/-! ### On several lines -/

/-- An entry on several lines. -/
def Entry.block : Entry → String
  | .plain text => text
  | .within name text => name ++ "(\n" ++ indented text ++ ")"

/-- **The layout on several lines.** -/
def block (o : Outline) : String :=
  let fields := o.fields.map fun (name, entry) => indented (name ++ ": " ++ entry.block)
  o.name ++ " \x7b\n" ++ "".intercalate fields ++ "\x7d"

end Outline

end SigV4

/-! # Indented text

Text is laid out by steps: whole lines, changes of indentation, and brace blocks. The steps are
data; running them on a layout appends their lines.
-/

namespace ConversionSynthesis

inductive LayoutStep where
  /-- A line at the current indentation; an empty one gets no spaces. -/
  | line (text : String)
  | blank
  | indent
  | dedent
  /-- An opening brace on a line of its own, and one level more. -/
  | openBlock
  /-- One level less, and a closing brace on a line of its own. -/
  | closeBlock
deriving DecidableEq, Repr

structure Layout where
  width : Nat
  level : Nat := 0
  text : String := ""
deriving DecidableEq, Repr

namespace Layout

def spaces (count : Nat) : String :=
  String.ofList (List.replicate count ' ')

/-- The number of spaces before a line. Level and width are machine words, and so is their product:
one that fits no word loses its carry. -/
def columns (level width : Nat) : Nat :=
  level * width % UInt64.size

def line (layout : Layout) (text : String) : Layout :=
  if text.isEmpty then { layout with text := layout.text ++ "\n" }
  else
    { layout with
      text := layout.text ++ spaces (columns layout.level layout.width) ++ text ++ "\n" }

def indent (layout : Layout) : Layout :=
  { layout with level := layout.level + 1 }

/-- Lowers the indentation by one level, if there is one to lower. -/
def dedent (layout : Layout) : Layout :=
  { layout with level := layout.level - 1 }

def step (layout : Layout) : LayoutStep → Layout
  | .line text => layout.line text
  | .blank => { layout with text := layout.text ++ "\n" }
  | .indent => layout.indent
  | .dedent => layout.dedent
  | .openBlock => (layout.line "\x7b").indent
  | .closeBlock => layout.dedent.line "\x7d"

def run (layout : Layout) (steps : List LayoutStep) : Layout :=
  steps.foldl step layout

@[simp]
theorem run_nil (layout : Layout) : layout.run [] = layout := rfl

@[simp]
theorem run_cons (layout : Layout) (first : LayoutStep) (rest : List LayoutStep) :
    layout.run (first :: rest) = (layout.step first).run rest := rfl

theorem run_append (layout : Layout) (front back : List LayoutStep) :
    layout.run (front ++ back) = (layout.run front).run back :=
  List.foldl_append

theorem columns_eq {level width : Nat} (fits : level * width < UInt64.size) :
    columns level width = level * width :=
  Nat.mod_eq_of_lt fits

theorem getLast?_line (layout : Layout) (text : String) :
    (layout.line text).text.toList.getLast? = some '\n' := by
  unfold line
  split <;> simp

end Layout

end ConversionSynthesis

import ConversionSynthesis.Text.Width

/-! # Type expressions

A type expression is the source text of a type, read as a tree. Every part keeps the stretch of
text that it was read from.

    type     := primary suffix*
    primary  := '(' element (',' element)* ')' | named
    element  := type IDENT?
    named    := ('global' '::')? segment ('.' segment)*
    segment  := IDENT ('<' type (',' type)* '>')?
    suffix   := '?' | '[' ','* ']'
-/

namespace ConversionSynthesis

/-- A stretch of a text, by the bytes before its start and before its end. -/
structure Span where
  start : Nat
  stop : Nat
deriving DecidableEq, Repr, Inhabited

namespace Span

def merge (a b : Span) : Span :=
  ⟨min a.start b.start, max a.stop b.stop⟩

def length (span : Span) : Nat :=
  span.stop - span.start

def isEmpty (span : Span) : Bool :=
  span.start == span.stop

end Span

mutual

inductive TypeExpr where
  /-- A dotted name, each part with its type arguments. -/
  | named (isGlobal : Bool) (segments : List Segment) (span : Span)
  | tuple (elements : List Element) (span : Span)
  | nullable (inner : TypeExpr) (span : Span)
  /-- An array with one dimension more than there are commas between its brackets. -/
  | array (element : TypeExpr) (commas : Nat) (span : Span)

inductive Segment where
  | mk (name : String) (arguments : List TypeExpr) (span : Span)

inductive Element where
  | mk (type : TypeExpr) (label : Option (String × Span))

end

instance : Inhabited TypeExpr := ⟨.named false [] default⟩

def TypeExpr.span : TypeExpr → Span
  | .named _ _ span => span
  | .tuple _ span => span
  | .nullable _ span => span
  | .array _ _ span => span

namespace Segment

def name : Segment → String
  | mk name _ _ => name

def arguments : Segment → List TypeExpr
  | mk _ arguments _ => arguments

def span : Segment → Span
  | mk _ _ span => span

end Segment

namespace Element

def type : Element → TypeExpr
  | mk type _ => type

def label : Element → Option (String × Span)
  | mk _ label => label

end Element

namespace TypeExpr

mutual

/-- The nesting depth: type arguments, tuple elements and suffixes all count. -/
def depth : TypeExpr → Nat
  | named _ segments _ => 1 + segmentsDepth segments
  | tuple elements _ => 1 + elementsDepth elements
  | nullable inner _ => 1 + inner.depth
  | array element _ _ => 1 + element.depth

def segmentsDepth : List Segment → Nat
  | [] => 0
  | .mk _ arguments _ :: rest => max (argumentsDepth arguments) (segmentsDepth rest)

def elementsDepth : List Element → Nat
  | [] => 0
  | .mk type _ :: rest => max type.depth (elementsDepth rest)

def argumentsDepth : List TypeExpr → Nat
  | [] => 0
  | argument :: rest => max argument.depth (argumentsDepth rest)

end

def maxDepth : Nat := 128

end TypeExpr

end ConversionSynthesis

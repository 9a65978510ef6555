import ConversionSynthesis.TypeExpr.SyntaxError

/-! # The grammar of type expressions

The productions of the grammar as relations between the kinds of tokens and the trees they spell.
Trees are bare here, without their places in a text. No production looks at the nesting; that no
tuple is too short and no type too deep is said apart, of the finished tree.

    type     := primary suffix*
    primary  := '(' element (',' element)* ')' | named
    element  := type IDENT?
    named    := ('global' '::')? segment ('.' segment)*
    segment  := IDENT ('<' type (',' type)* '>')?
    suffix   := '?' | '[' ','* ']'
-/

namespace ConversionSynthesis

/-! ## Bare trees -/

mutual

/-- A type expression without its places. -/
def TypeExpr.bare : TypeExpr → TypeExpr
  | .named isGlobal segments _ => .named isGlobal (bareSegments segments) default
  | .tuple elements _ => .tuple (bareElements elements) default
  | .nullable inner _ => .nullable inner.bare default
  | .array element commas _ => .array element.bare commas default

def Segment.bare : Segment → Segment
  | .mk name arguments _ => .mk name (bareArguments arguments) default

def Element.bare : Element → Element
  | .mk type label => .mk type.bare (label.map fun written => (written.1, default))

def bareSegments : List Segment → List Segment
  | [] => []
  | segment :: rest => segment.bare :: bareSegments rest

def bareElements : List Element → List Element
  | [] => []
  | element :: rest => element.bare :: bareElements rest

def bareArguments : List TypeExpr → List TypeExpr
  | [] => []
  | argument :: rest => argument.bare :: bareArguments rest

end

@[simp]
theorem bareSegments_eq_map (segments : List Segment) :
    bareSegments segments = segments.map Segment.bare := by
  induction segments with
  | nil => rfl
  | cons segment rest ih => simp [bareSegments, ih]

@[simp]
theorem bareElements_eq_map (elements : List Element) :
    bareElements elements = elements.map Element.bare := by
  induction elements with
  | nil => rfl
  | cons element rest ih => simp [bareElements, ih]

@[simp]
theorem bareArguments_eq_map (arguments : List TypeExpr) :
    bareArguments arguments = arguments.map TypeExpr.bare := by
  induction arguments with
  | nil => rfl
  | cons argument rest ih => simp [bareArguments, ih]

/-! ## Productions -/

namespace Grammar

/-- One item or more with a separator between them: `item (separator item)*`. -/
inductive Separated {α : Type} (separator : TokenKind) (item : List TokenKind → α → Prop) :
    List TokenKind → List α → Prop
  | one {ks x} : item ks x → Separated separator item ks [x]
  | more {ks x ks' xs} : item ks x → Separated separator item ks' xs →
      Separated separator item (ks ++ separator :: ks') (x :: xs)

/-- A suffix makes one type of another. -/
inductive IsSuffix : List TokenKind → TypeExpr → TypeExpr → Prop
  | question (type) : IsSuffix [.question] type (.nullable type default)
  | brackets (type) (commas : Nat) :
      IsSuffix (.openBracket :: (List.replicate commas .comma ++ [.closeBracket])) type
        (.array type commas default)

inductive AreSuffixes : List TokenKind → TypeExpr → TypeExpr → Prop
  | none (type) : AreSuffixes [] type type
  | more {ks type inner ks' whole} : IsSuffix ks type inner → AreSuffixes ks' inner whole →
      AreSuffixes (ks ++ ks') type whole

mutual

inductive IsType : List TokenKind → TypeExpr → Prop
  | mk {ks head ks' type} : IsPrimary ks head → AreSuffixes ks' head type →
      IsType (ks ++ ks') type

inductive IsPrimary : List TokenKind → TypeExpr → Prop
  | tuple {ks elements} : Separated .comma IsElement ks elements →
      IsPrimary (.openParen :: (ks ++ [.closeParen])) (.tuple elements default)
  | named {ks type} : IsNamed ks type → IsPrimary ks type

inductive IsElement : List TokenKind → Element → Prop
  | plain {ks type} : IsType ks type → IsElement ks (.mk type none)
  | labelled {ks type} (label : String) : IsType ks type →
      IsElement (ks ++ [.ident label]) (.mk type (some (label, default)))

inductive IsNamed : List TokenKind → TypeExpr → Prop
  | plain {ks segments} : Separated .dot IsSegment ks segments →
      IsNamed ks (.named false segments default)
  | global {ks segments} : Separated .dot IsSegment ks segments →
      IsNamed (.ident "global" :: .doubleColon :: ks) (.named true segments default)

inductive IsSegment : List TokenKind → Segment → Prop
  | plain (name : String) : IsSegment [.ident name] (.mk name [] default)
  | generic {ks arguments} (name : String) : Separated .comma IsType ks arguments →
      IsSegment (.ident name :: .openAngle :: (ks ++ [.closeAngle])) (.mk name arguments default)

end

end Grammar

/-! ## What is asked of the tree -/

namespace TypeExpr

/-- The type without its own suffixes. -/
def head : TypeExpr → TypeExpr
  | nullable inner _ => inner.head
  | array element _ _ => element.head
  | type => type

/-- The number of the type's own suffixes. -/
def suffixCount : TypeExpr → Nat
  | nullable inner _ => inner.suffixCount + 1
  | array element _ _ => element.suffixCount + 1
  | _ => 0

/-- The types one level further in: type arguments or the types of tuple elements. -/
def parts (type : TypeExpr) : List TypeExpr :=
  match type.head with
  | named _ segments _ => segments.flatMap (·.arguments)
  | tuple elements _ => elements.map (·.type)
  | _ => []

/-- `AtLevel whole level type`: the type occurs in the whole at that level of nesting; the whole is
at level one. -/
inductive AtLevel : TypeExpr → Nat → TypeExpr → Prop
  | whole (type) : AtLevel type 1 type
  | part {whole inner level type} : inner ∈ whole.parts → AtLevel inner level type →
      AtLevel whole (level + 1) type

/-- Every tuple has two elements or more, and no type has more levels and suffixes than `cap`. -/
structure Within (cap : Nat) (whole : TypeExpr) : Prop where
  paired : ∀ level type, AtLevel whole level type →
    ∀ elements span, type.head = .tuple elements span → 2 ≤ elements.length
  capped : ∀ level type, AtLevel whole level type → level + type.suffixCount ≤ cap

end TypeExpr

end ConversionSynthesis

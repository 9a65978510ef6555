import ConversionSynthesis.Proofs.TypeExpr.CheckedLexer
import ConversionSynthesis.Proofs.TypeExpr.Failing

/-! # Reading type expressions by checked steps

The parser once more, as a machine that moves a cursor along the marks of a text: its tokens, and
one more mark where the text ends. The levels of nesting are counted up and down in the cursor. An
index without a mark and a number below zero have no result. Neither has a loop that takes a turn
more than there are marks left, nor a call that is deeper than the calls may be.
-/

namespace ConversionSynthesis.Checked

open TypeExpr

/-! ## Cursors -/

/-- A token with its place; without a kind it is the end of the text. -/
structure Mark where
  kind : Option TokenKind
  span : Span
deriving DecidableEq, Repr

/-- The marks of a text that is `size` bytes long. -/
def marks (size : Nat) (tokens : List Token) : List Mark :=
  tokens.map (fun token => ⟨some token.kind, token.span⟩) ++ [⟨none, ⟨size, size⟩⟩]

structure Cursor where
  marks : List Mark
  /-- The index of the next mark. -/
  position : Nat
  /-- How many types are being read, one within the other. -/
  depth : Nat
deriving Repr

abbrev Walk := StateT Cursor Option

/-- A walk that may come upon an error. -/
abbrev Step := ExceptT SyntaxError Walk

/-- A number less one, if there is one less. -/
def oneLess? : Nat → Option Nat
  | 0 => none
  | n + 1 => some n

namespace Walk

def demand {α : Type} (result : Option α) : Walk α := fun cursor =>
  result.map (·, cursor)

def oneLess (n : Nat) : Walk Nat :=
  demand (oneLess? n)

def enter : Walk Unit :=
  modify fun cursor => { cursor with depth := cursor.depth + 1 }

def leave : Walk Unit := do
  let depth ← oneLess (← get).depth
  modify fun cursor => { cursor with depth }

def peek : Walk Mark := do
  let cursor ← get
  demand cursor.marks[cursor.position]?

def isAtEnd : Walk Bool :=
  return (← peek).kind == none

/-- The mark before the next one. -/
def lookBack : Walk Mark := do
  let cursor ← get
  demand cursor.marks[← oneLess cursor.position]?

/-- Moves on by one mark, but not behind the last one, and looks back. -/
def advance : Walk Mark := do
  unless ← isAtEnd do
    modify fun cursor => { cursor with position := cursor.position + 1 }
  lookBack

/-- The end of the mark before the next one; of the first mark if there is none before. -/
def previousEnd : Walk Nat := do
  let cursor ← get
  return (← demand cursor.marks[cursor.position - 1]?).span.stop

def check (kind : TokenKind) : Walk Bool :=
  return (← peek).kind == some kind

/-- Takes the next token, if it is of the kind. -/
def takes (kind : TokenKind) : Walk Bool := do
  if ← check kind then
    let _ ← advance
    return true
  else return false

/-- The number of marks from the next one on, which is enough turns for every loop. -/
def turns : Walk Nat := do
  let cursor ← get
  return cursor.marks.length - cursor.position

/-- Counts the dimensions of an array, of which there are `rank` so far. -/
def dimensionsIn : (turns : Nat) → (rank : Nat) → Walk Nat
  | 0, _ => demand none
  | turns + 1, rank => do
      if ← takes .comma then dimensionsIn turns (rank + 1) else return rank

def dimensions : Walk Nat := do
  dimensionsIn (← turns) 1

/-- The mark behind the next one, if there is any. -/
def second? : Walk (Option Mark) := do
  let cursor ← get
  return cursor.marks[cursor.position + 1]?

/-- Takes `global ::`, if it comes next. -/
def takesRoot : Walk Bool := do
  let first ← peek
  let second ← second?
  if first.kind == some (.ident "global") && second.any (·.kind == some .doubleColon) then
    let _ ← advance
    let _ ← advance
    return true
  else return false

end Walk

namespace Step

open Walk

def expect (kind : TokenKind) (what : Expectation) : Step Mark := do
  if ← check kind then advance
  else
    let mark ← peek
    throw ⟨.expected what mark.kind, mark.span⟩

def identifier : Step (String × Span) := do
  let mark ← peek
  match mark.kind with
  | some (.ident name) =>
      let _ ← advance
      return (name, mark.span)
  | found => throw ⟨.expected .typeName found, mark.span⟩

def label? : Step (Option (String × Span)) := do
  match (← peek).kind with
  | some (.ident _) => return some (← identifier)
  | _ => return none

def tooDeep {α : Type} : Step α := do
  throw ⟨.tooDeep, (← peek).span⟩

/-- Reads items with a separator between them, at least one. -/
def listedIn {α : Type} (separator : TokenKind) (item : Step α) : (turns : Nat) → Step (List α)
  | 0 => demand none
  | turns + 1 => do
      let first ← item
      if ← takes separator then return first :: (← listedIn separator item turns)
      else return [first]

def listed {α : Type} (separator : TokenKind) (item : Step α) : Step (List α) := do
  listedIn separator item (← turns)

section

/-! The types within a type are read by `inner`. -/

variable (inner : Step TypeExpr)

def segment : Step Segment := do
  let (name, place) ← identifier
  if ← takes .openAngle then
    let arguments ← listed .comma inner
    let _ ← expect .closeAngle .argumentsEnd
    return .mk name arguments ⟨place.start, ← previousEnd⟩
  else return .mk name [] ⟨place.start, ← previousEnd⟩

def named : Step TypeExpr := do
  let start := (← peek).span.start
  let isGlobal ← takesRoot
  let segments ← listed .dot (segment inner)
  return .named isGlobal segments ⟨start, ← previousEnd⟩

def element : Step Element := do
  let type ← inner
  return .mk type (← label?)

def tuple : Step TypeExpr := do
  let start := (← advance).span.start
  if ← check .closeParen then
    throw ⟨.emptyTuple, ⟨start, (← advance).span.stop⟩⟩
  else
    let elements ← listed .comma (element inner)
    let span : Span := ⟨start, (← expect .closeParen .tupleEnd).span.stop⟩
    if elements.length < 2 then throw ⟨.loneElement, span⟩
    else return .tuple elements span

def primary : Step TypeExpr := do
  if ← check .openParen then tuple inner else named inner

end

/-- Reads the next suffix of a type, if there is one, and goes on with what the type is then. -/
def suffix (type : TypeExpr) (further : TypeExpr → Step TypeExpr) : Step TypeExpr := do
  if ← check .question then
    let mark ← advance
    further (.nullable type (type.span.merge mark.span))
  else if ← takes .openBracket then
    let rank ← dimensions
    let close ← expect .closeBracket .arrayEnd
    let commas ← oneLess rank
    further (.array type commas (type.span.merge close.span))
  else return type

/-- Reads the suffixes of a type, which has so many wrappers already. -/
def suffixesIn : (turns : Nat) → TypeExpr → (wrappers : Nat) → Step TypeExpr
  | 0, _, _ => demand none
  | turns + 1, type, wrappers => do
      let isSuffix := (← check .question) || (← check .openBracket)
      let cursor ← get
      if isSuffix && maxDepth < cursor.depth + (wrappers + 1) then tooDeep
      else suffix type fun wrapped => suffixesIn turns wrapped (wrappers + 1)

def suffixes (type : TypeExpr) : Step TypeExpr := do
  suffixesIn (← turns) type 0

def suffixed (inner : Step TypeExpr) : Step TypeExpr := do
  suffixes (← primary inner)

/-- A step one level of nesting further in. An error inside does not keep the level from being
left. -/
def nested {α : Type} (step : Step α) : Step α := do
  let cursor ← get
  if maxDepth ≤ cursor.depth then tooDeep
  else
    (do
      enter
      let result ← step.run
      leave
      return result : Walk (Except SyntaxError α))

/-- Reads a type, where so many calls may be made within one another. -/
def typeExpr : (calls : Nat) → Step TypeExpr
  | 0 => demand none
  | calls + 1 => nested (suffixed (typeExpr calls))

/-- Reads the marks from first to last. -/
def whole (size : Nat) : Step TypeExpr := do
  if ← isAtEnd then throw ⟨.noType, ⟨0, size⟩⟩
  else
    let type ← typeExpr (maxDepth + 1)
    let mark ← peek
    match mark.kind with
    | some extra => throw ⟨.trailing extra, mark.span⟩
    | none => return type

end Step

/-- The type that a text spells, read by checked steps. -/
def parse (source : String) : ExceptT SyntaxError Option TypeExpr := do
  let tokens ← lex source
  let size := source.utf8ByteSize
  ExceptT.mk ((Step.whole size).run.run' ⟨marks size tokens, 0, 0⟩)

/-! ## Steps in a row -/

section

variable {α β : Type} {start after : Cursor} {x : α}

theorem Walk.bind_apply {first : Walk α} {next : α → Walk β} (ran : first start = some (x, after)) :
    (first >>= next) start = next x after := by
  change (first start).bind _ = _
  rw [ran]
  rfl

theorem Step.lift_apply {walk : Walk α} (ran : walk start = some (x, after)) :
    (liftM walk : Step α) start = some (.ok x, after) := by
  change (walk start).bind _ = _
  rw [ran]
  rfl

theorem Step.lift_bind_apply {first : Walk α} {next : α → Step β}
    (ran : first start = some (x, after)) :
    ((liftM first : Step α) >>= next) start = next x after := by
  change ((first start).bind _).bind _ = _
  rw [ran]
  rfl

theorem Step.get_bind_apply {next : Cursor → Step β} :
    ((get : Step Cursor) >>= next) start = next start start := rfl

theorem Step.bind_ok {first : Step α} {next : α → Step β}
    (ran : first start = some (.ok x, after)) : (first >>= next) start = next x after := by
  change (first start).bind _ = _
  rw [ran]
  rfl

theorem Step.bind_error {first : Step α} {next : α → Step β} {error : SyntaxError}
    (ran : first start = some (.error error, after)) :
    (first >>= next) start = some (.error error, after) := by
  change (first start).bind _ = _
  rw [ran]
  rfl

end

/-! ## Operations between tokens -/

/-- The cursor behind the tokens taken, with the rest to come. -/
def Cursor.between (size depth : Nat) (taken rest : List Token) : Cursor :=
  ⟨Checked.marks size (taken ++ rest), taken.length, depth⟩

theorem Cursor.depth_between (size depth : Nat) (taken rest : List Token) :
    (between size depth taken rest).depth = depth := rfl

open Cursor

section

variable {size depth : Nat} {taken rest : List Token} {token : Token} {k : TokenKind}

theorem unexpected_eq (size : Nat) (what : Expectation) (rest : List Token) :
    unexpected size what rest = ⟨.expected what (nextKind rest), place size rest⟩ := rfl

theorem marks_next (size : Nat) (taken rest : List Token) :
    (marks size (taken ++ rest))[taken.length]? = some ⟨nextKind rest, place size rest⟩ := by
  have length : taken.length =
      (taken.map fun token => (⟨some token.kind, token.span⟩ : Mark)).length := by simp
  rw [marks, List.map_append, List.append_assoc, length, List.getElem?_append_right (Nat.le_refl _),
    Nat.sub_self]
  cases rest <;> rfl

theorem marks_last (size : Nat) (taken rest : List Token) (token : Token) :
    (marks size (taken ++ [token] ++ rest))[(taken ++ [token]).length - 1]? =
      some ⟨some token.kind, token.span⟩ := by
  rw [List.append_assoc, List.length_append, List.length_singleton, Nat.add_sub_cancel]
  exact marks_next size taken (token :: rest)

namespace Walk

variable {β : Type}

theorem enter_between : enter (between size depth taken rest) =
    some ((), between size (depth + 1) taken rest) := rfl

theorem leave_between : leave (between size (depth + 1) taken rest) =
    some ((), between size depth taken rest) := rfl

theorem peek_between : peek (between size depth taken rest) =
    some (⟨nextKind rest, place size rest⟩, between size depth taken rest) := by
  change ((marks size (taken ++ rest))[taken.length]?).map _ = _
  rw [marks_next]
  rfl

theorem isAtEnd_between : isAtEnd (between size depth taken rest) =
    some (nextKind rest == none, between size depth taken rest) :=
  bind_apply peek_between

theorem check_between : check k (between size depth taken rest) =
    some (nextKind rest == some k, between size depth taken rest) :=
  bind_apply peek_between

theorem lookBack_between : lookBack (between size depth (taken ++ [token]) rest) =
    some (⟨some token.kind, token.span⟩, between size depth (taken ++ [token]) rest) := by
  have before : oneLess? (taken ++ [token]).length = some ((taken ++ [token]).length - 1) := by
    simp [oneLess?]
  change ((oneLess? (taken ++ [token]).length).map _).bind _ = _
  rw [before]
  change ((marks size (taken ++ [token] ++ rest))[(taken ++ [token]).length - 1]?).map _ = _
  rw [marks_last]
  rfl

theorem advance_between : advance (between size depth taken (token :: rest)) =
    some (⟨some token.kind, token.span⟩, between size depth (taken ++ [token]) rest) := by
  have moved : between size depth (taken ++ [token]) rest =
      { between size depth taken (token :: rest) with position := taken.length + 1 } := by
    simp [between]
  unfold advance
  rw [bind_apply isAtEnd_between, ← lookBack_between, moved]
  rfl

theorem previousEnd_between : previousEnd (between size depth (taken ++ [token]) rest) =
    some (token.span.stop, between size depth (taken ++ [token]) rest) := by
  change (((marks size (taken ++ [token] ++ rest))[(taken ++ [token]).length - 1]?).map _).bind _ =
    _
  rw [marks_last]
  rfl

theorem previousEnd_behind {own : List Token} {stop : Nat}
    (last : own.getLast?.map (·.span.stop) = some stop) :
    previousEnd (between size depth (taken ++ own) rest) =
      some (stop, between size depth (taken ++ own) rest) := by
  obtain ⟨token, isLast, rfl⟩ := Option.map_eq_some_iff.mp last
  obtain ⟨front, rfl⟩ := List.getLast?_eq_some_iff.mp isLast
  rw [← List.append_assoc]
  exact previousEnd_between

theorem takes_between (place : Span) :
    takes k (between size depth taken (⟨k, place⟩ :: rest)) =
      some (true, between size depth (taken ++ [⟨k, place⟩]) rest) := by
  unfold takes
  rw [bind_apply check_between, if_pos (by simp [nextKind]),
    bind_apply advance_between]
  rfl

theorem takes_between_of_ne (other : nextKind rest ≠ some k) :
    takes k (between size depth taken rest) = some (false, between size depth taken rest) := by
  unfold takes
  rw [bind_apply check_between, if_neg (by simpa using other)]
  rfl

theorem turns_between : turns (between size depth taken rest) =
    some (rest.length + 1, between size depth taken rest) := by
  have left : (marks size (taken ++ rest)).length - taken.length = rest.length + 1 := by
    simp only [marks, List.length_append, List.length_map, List.length_singleton]
    omega
  rw [← left]
  rfl

theorem dimensionsIn_between {turns : Nat} (commas : List Span)
    (free : nextKind rest ≠ some .comma) (enough : commas.length < turns) (rank : Nat) :
    dimensionsIn turns rank (between size depth taken (commas.map (⟨.comma, ·⟩) ++ rest)) =
      some (rank + commas.length,
        between size depth (taken ++ commas.map (⟨.comma, ·⟩)) rest) := by
  induction turns generalizing commas rank taken with
  | zero => exact absurd enough (Nat.not_lt_zero _)
  | succ turns ih =>
      cases commas with
      | nil =>
          rw [List.map_nil, List.nil_append, List.append_nil, dimensionsIn,
            bind_apply (takes_between_of_ne free)]
          rfl
      | cons comma commas =>
          rw [List.map_cons, List.cons_append, dimensionsIn, bind_apply (takes_between comma),
            if_pos rfl, ih commas (Nat.lt_of_succ_lt_succ enough), List.append_assoc,
            List.length_cons, Nat.add_right_comm, Nat.add_assoc]
          rfl

theorem dimensions_between (commas : List Span) (free : nextKind rest ≠ some .comma) :
    dimensions (between size depth taken (commas.map (⟨.comma, ·⟩) ++ rest)) =
      some (1 + commas.length,
        between size depth (taken ++ commas.map (⟨.comma, ·⟩)) rest) := by
  have enough : commas.length < (commas.map (⟨.comma, ·⟩ : Span → Token) ++ rest).length + 1 := by
    simp only [List.length_append, List.length_map]
    omega
  exact (bind_apply turns_between).trans (dimensionsIn_between commas free enough 1)

theorem second?_between : second? (between size depth taken (token :: rest)) =
    some (some ⟨nextKind rest, place size rest⟩, between size depth taken (token :: rest)) := by
  have next := marks_next size (taken ++ [token]) rest
  rw [List.append_assoc, List.length_append] at next
  rw [← next]
  rfl

theorem takesRoot_between (root colons : Span) :
    takesRoot (between size depth taken
        (⟨.ident "global", root⟩ :: ⟨.doubleColon, colons⟩ :: rest)) =
      some (true, between size depth
        (taken ++ [⟨.ident "global", root⟩, ⟨.doubleColon, colons⟩]) rest) := by
  unfold takesRoot
  rw [bind_apply peek_between, bind_apply second?_between, if_pos (by simp [nextKind]),
    bind_apply advance_between, bind_apply advance_between,
    List.append_assoc]
  rfl

theorem takesRoot_between_of_not (plain : ¬ StartsGlobal rest) :
    takesRoot (between size depth taken rest) =
      some (false, between size depth taken rest) := by
  unfold takesRoot
  rw [bind_apply peek_between]
  cases rest with
  | nil => rfl
  | cons token rest =>
      rw [bind_apply second?_between, if_neg]
      · rfl
      · intro both
        simp only [Bool.and_eq_true, beq_iff_eq, Option.any_some, nextKind_eq_some] at both
        obtain ⟨⟨root, more, same⟩, colons, behind, rfl⟩ := both
        cases same
        exact plain ⟨root, colons, _, rfl⟩

end Walk

namespace Step

open Walk

variable {β : Type} {f g : Step β}

theorem lift_takes_between (place : Span) :
    ((liftM (takes k) : Step Bool) >>= fun b => if b = true then f else g)
      (between size depth taken (⟨k, place⟩ :: rest)) =
        f (between size depth (taken ++ [⟨k, place⟩]) rest) := by
  rw [lift_bind_apply (takes_between place), if_pos rfl]

theorem lift_takes_between_of_ne (other : nextKind rest ≠ some k) :
    ((liftM (takes k) : Step Bool) >>= fun b => if b = true then f else g)
      (between size depth taken rest) = g (between size depth taken rest) := by
  rw [lift_bind_apply (takes_between_of_ne other), if_neg Bool.false_ne_true]

theorem lift_check_between (same : nextKind rest = some k) :
    ((liftM (check k) : Step Bool) >>= fun b => if b = true then f else g)
      (between size depth taken rest) = f (between size depth taken rest) := by
  rw [lift_bind_apply check_between, if_pos (by simpa using same)]

theorem lift_check_between_of_ne (other : nextKind rest ≠ some k) :
    ((liftM (check k) : Step Bool) >>= fun b => if b = true then f else g)
      (between size depth taken rest) = g (between size depth taken rest) := by
  rw [lift_bind_apply check_between, if_neg (by simpa using other)]

theorem tooDeep_between {α : Type} : (tooDeep : Step α) (between size depth taken rest) =
    some (.error ⟨.tooDeep, place size rest⟩, between size depth taken rest) := by
  unfold tooDeep
  rw [lift_bind_apply peek_between]
  rfl

theorem expect_between (what : Expectation) (place : Span) :
    expect k what (between size depth taken (⟨k, place⟩ :: rest)) =
      some (.ok ⟨some k, place⟩, between size depth (taken ++ [⟨k, place⟩]) rest) := by
  unfold expect
  rw [lift_check_between rfl]
  exact lift_apply advance_between

theorem expect_between_of_ne (what : Expectation) (other : nextKind rest ≠ some k) :
    expect k what (between size depth taken rest) =
      some (.error (unexpected size what rest), between size depth taken rest) := by
  unfold expect
  rw [lift_check_between_of_ne other, lift_bind_apply peek_between]
  rfl

theorem identifier_between (name : String) (place : Span) :
    identifier (between size depth taken (⟨.ident name, place⟩ :: rest)) =
      some (.ok (name, place), between size depth (taken ++ [⟨.ident name, place⟩]) rest) := by
  unfold identifier
  rw [lift_bind_apply peek_between]
  exact lift_bind_apply advance_between

theorem identifier_between_of_ne (unnamed : ∀ name, nextKind rest ≠ some (.ident name)) :
    identifier (between size depth taken rest) =
      some (.error (unexpected size .typeName rest), between size depth taken rest) := by
  unfold identifier
  rw [lift_bind_apply peek_between, unexpected_eq]
  cases next : nextKind rest with
  | none => rfl
  | some k =>
      cases k with
      | ident name => exact absurd next (unnamed name)
      | _ => rfl

theorem label?_between (label : String) (place : Span) :
    label? (between size depth taken (⟨.ident label, place⟩ :: rest)) =
      some (.ok (some (label, place)),
        between size depth (taken ++ [⟨.ident label, place⟩]) rest) := by
  unfold label?
  rw [lift_bind_apply peek_between]
  exact bind_ok (identifier_between label place)

theorem label?_between_of_ne (unnamed : ∀ name, nextKind rest ≠ some (.ident name)) :
    label? (between size depth taken rest) =
      some (.ok none, between size depth taken rest) := by
  unfold label?
  rw [lift_bind_apply peek_between]
  cases next : nextKind rest with
  | none => rfl
  | some k =>
      cases k with
      | ident name => exact absurd next (unnamed name)
      | _ => rfl

end Step

end

end ConversionSynthesis.Checked

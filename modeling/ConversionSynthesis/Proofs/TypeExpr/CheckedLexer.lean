import ConversionSynthesis.Proofs.TypeExpr.Lexemes

/-! # Tokens by checked steps

The tokens of a text once more, this time by steps as a machine takes them: characters with the
bytes before them, a loop that looks for the end of a name, and the name as a slice of the text.
Slicing is checked, so that it has no result where an end lies inside a character or behind the
text. Every text is cut into its tokens in this way.
-/

namespace ConversionSynthesis.Checked

open Host

/-! ## Slices -/

/-- The characters cut in two behind so many bytes, if a character ends there. -/
def cutAt? : (bytes : Nat) → List Char → Option (List Char × List Char)
  | 0, text => some ([], text)
  | _ + 1, [] => none
  | bytes + 1, c :: rest =>
      if c.utf8Size ≤ bytes + 1 then
        (cutAt? (bytes + 1 - c.utf8Size) rest).map fun (front, back) => (c :: front, back)
      else none

/-- The text from one place to another, if both are between characters and not the wrong way
round. -/
def slice? (source : String) (span : Span) : Option String := do
  let (front, _) ← cutAt? span.stop source.toList
  let (_, piece) ← cutAt? span.start front
  return .ofList piece

theorem cutAt?_width (front back : List Char) :
    cutAt? (Text.width front) (front ++ back) = some (front, back) := by
  induction front with
  | nil => rw [Text.width_nil, List.nil_append, cutAt?]
  | cons c front ih =>
      obtain ⟨bytes, size⟩ : ∃ bytes, Text.width (c :: front) = bytes + 1 :=
        Nat.exists_eq_succ_of_ne_zero (Nat.ne_of_gt (Nat.add_pos_left c.utf8Size_pos _))
      have behind : bytes + 1 - c.utf8Size = Text.width front := by
        rw [← size, Text.width_cons, Nat.add_sub_cancel_left]
      have fits : c.utf8Size ≤ bytes + 1 := by
        rw [← size, Text.width_cons]
        exact Nat.le_add_right _ _
      rw [size, List.cons_append, cutAt?, if_pos fits, behind, ih]
      rfl

theorem slice?_eq_some {source : String} {front piece back : List Char}
    (split : source.toList = front ++ (piece ++ back)) :
    slice? source ⟨Text.width front, Text.width front + Text.width piece⟩ =
      some (.ofList piece) := by
  have outer : cutAt? (Text.width front + Text.width piece) source.toList =
      some (front ++ piece, back) := by
    rw [split, ← Text.width_append, ← List.append_assoc, cutAt?_width]
  rw [slice?, outer]
  simp only [Option.bind_eq_bind, Option.bind_some, cutAt?_width]
  rfl

/-! ## The loops of the lexer -/

/-- The characters with the bytes before each of them. -/
def indexed (offset : Nat) : List Char → List (Nat × Char)
  | [] => []
  | c :: rest => (offset, c) :: indexed (offset + c.utf8Size) rest

/-- Where a name that has come to `stop` ends, with what is behind it. -/
def nameEnd (stop : Nat) : List (Nat × Char) → Nat × List (Nat × Char)
  | [] => (stop, [])
  | (start, c) :: rest =>
      if continuesName c then nameEnd (start + c.utf8Size) rest else (stop, (start, c) :: rest)

theorem length_nameEnd_le (stop : Nat) (rest : List (Nat × Char)) :
    (nameEnd stop rest).2.length ≤ rest.length := by
  fun_induction nameEnd stop rest with
  | case1 => exact Nat.le_refl _
  | case2 stop start c rest continues ih => exact Nat.le_succ_of_le ih
  | case3 => exact Nat.le_refl _

def tokensOf (source : String) (text : List (Nat × Char)) :
    ExceptT SyntaxError Option (List Token) :=
  match text with
  | [] => return []
  | (start, c) :: rest => do
      if Text.isBlank c then tokensOf source rest
      else if Token.opens c then
        let ended := nameEnd (start + c.utf8Size) rest
        let span : Span := ⟨start, ended.1⟩
        let name ← slice? source span
        if name = "@" then throw ⟨.markAlone, span⟩
        else return ⟨.ident name, span⟩ :: (← tokensOf source ended.2)
      else if c = ':' then
        match rest with
        | (_, ':') :: behind =>
            return ⟨.doubleColon, ⟨start, start + 2⟩⟩ :: (← tokensOf source behind)
        | _ => throw ⟨.colonAlone, ⟨start, start + 1⟩⟩
      else
        match TokenKind.ofChar? c with
        | some kind => return ⟨kind, ⟨start, start + 1⟩⟩ :: (← tokensOf source rest)
        | none => throw ⟨.strayCharacter c, ⟨start, start + c.utf8Size⟩⟩
termination_by text.length
decreasing_by
  · simp
  · exact Nat.lt_succ_of_le (length_nameEnd_le _ rest)
  · simp only [List.length_cons]
    omega
  · simp

def lex (source : String) : ExceptT SyntaxError Option (List Token) :=
  tokensOf source (indexed 0 source.toList)

theorem nameEnd_indexed (stop : Nat) (rest : List Char) :
    nameEnd stop (indexed stop rest) =
      (stop + Text.width (rest.takeWhile continuesName),
        indexed (stop + Text.width (rest.takeWhile continuesName))
          (rest.dropWhile continuesName)) := by
  induction rest generalizing stop with
  | nil => rfl
  | cons c rest ih =>
      rw [indexed, nameEnd]
      by_cases continues : continuesName c
      · rw [if_pos continues, ih, List.takeWhile_cons_of_pos continues,
          List.dropWhile_cons_of_pos continues, Text.width_cons, Nat.add_assoc]
      · rw [if_neg continues, List.takeWhile_cons_of_neg continues,
          List.dropWhile_cons_of_neg continues, Text.width_nil, Nat.add_zero, indexed]

/-- Where a name stands in the source, the loop that reads it takes it as a whole. -/
theorem slice?_name {source : String} {front rest : List Char} {c : Char}
    (split : source.toList = front ++ c :: rest) :
    slice? source ⟨Text.width front,
        Text.width front + c.utf8Size + Text.width (rest.takeWhile continuesName)⟩ =
      some (.ofList (c :: rest.takeWhile continuesName)) := by
  have pieces : source.toList =
      front ++ (c :: rest.takeWhile continuesName ++ rest.dropWhile continuesName) := by
    rw [split, List.cons_append, List.takeWhile_append_dropWhile]
  have sliced := slice?_eq_some pieces
  rwa [Text.width_cons, ← Nat.add_assoc] at sliced

/-- No step of cutting a text into tokens goes wrong, and it gives the tokens or the error of the
text. -/
theorem run_tokensOf {source : String} {text : List Char} {offset : Nat} (front : List Char)
    (split : source.toList = front ++ text) (place : offset = Text.width front) :
    (tokensOf source (indexed offset text)).run = some (Token.scan offset text) := by
  -- What stands before the characters left is what the places in the source are counted from.
  fun_induction Token.scan offset text generalizing front with
  | case1 offset =>
      rw [indexed, tokensOf.eq_def]
      rfl
  | case2 offset c rest blank ih =>
      rw [indexed, tokensOf.eq_def]
      simp only [if_pos blank]
      exact ih (front ++ [c]) (by simp [split]) (by simp [place])
  | case3 offset c rest notBlank opens word span =>
      next alone =>
        subst place
        rw [indexed, tokensOf.eq_def]
        simp only [if_neg notBlank, if_pos opens, nameEnd_indexed]
        rw [lift_bind_of_some (slice?_name split), if_pos (congrArg String.ofList alone),
          Nat.add_assoc]
        rfl
  | case4 offset c rest notBlank opens word span notMark =>
      next ih =>
        subst place
        have other : String.ofList word ≠ "@" := fun same => notMark (String.ofList_injective same)
        rw [indexed, tokensOf.eq_def]
        simp only [if_neg notBlank, if_pos opens, nameEnd_indexed]
        rw [lift_bind_of_some (slice?_name split), if_neg other, Nat.add_assoc]
        refine run_map_of_some (ih (front ++ word) ?_ (Text.width_append _ _).symm)
          fun _ _ => rfl
        rw [split, List.append_assoc, List.cons_append, List.takeWhile_append_dropWhile]
  | case5 offset after notBlank closed ih =>
      rw [indexed, indexed, tokensOf.eq_def]
      simp only [if_neg notBlank, if_neg closed]
      refine run_map_of_some (ih (front ++ [':', ':']) (by simp [split]) ?_) fun _ _ => rfl
      rw [place, Text.width_append]
      rfl
  | case6 offset rest alone notBlank closed =>
      rw [indexed, tokensOf.eq_def]
      simp only [if_neg notBlank, if_neg closed, if_true]
      cases rest with
      | nil => rfl
      | cons d rest =>
          have other : d ≠ ':' := fun same => alone rest (by rw [same])
          rw [indexed]
          split
          · next behind => cases behind; exact absurd rfl other
          · rfl
  | case7 offset c rest notBlank closed notColon kind known ih =>
      have size := (punctuation_apart known).2.2.2
      rw [indexed, tokensOf.eq_def]
      simp only [if_neg notBlank, if_neg closed, if_neg notColon, known, size]
      refine run_map_of_some (ih (front ++ [c]) (by simp [split]) ?_) fun _ _ => rfl
      rw [place, Text.width_append, Text.width_cons, size]
      rfl
  | case8 offset c rest notBlank closed notColon unknown =>
      rw [indexed, tokensOf.eq_def]
      simp only [if_neg notBlank, if_neg closed, if_neg notColon, unknown]
      rfl

theorem run_lex (text : String) : (lex text).run = some (Token.lex text) :=
  run_tokensOf [] rfl rfl

end ConversionSynthesis.Checked

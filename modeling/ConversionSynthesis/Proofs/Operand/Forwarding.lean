import ConversionSynthesis.Proofs.Signature.OperandType
import ConversionSynthesis.Text.Pieces

/-! # Packed operands forward every value

Several values travel in one tuple and are read back one by one, by label or by position. The host
looks a member up among all labels and all positions at once, so a position must not be shadowed by
a label and no label may be taken twice. Both follow from what may label an element.
-/

namespace ConversionSynthesis

open Host

/-! ## Names of positions -/

theorem Text.decimal?_toString (n : Nat) : Text.decimal? (toString n).toList = some n := by
  rw [Nat.toString_eq_ofList_toDigits, String.toList_ofList]
  have digits : (Nat.toDigits 10 n).all Char.isDigit = true :=
    List.all_eq_true.mpr fun c mem => Nat.isDigit_of_mem_toDigits (by decide) (by decide) mem
  have value := Nat.ofDigitChars_ten_toDigits (n := n)
  rw [Nat.ofDigitChars_eq_foldl] at value
  simpa [Text.decimal?, digits] using value

theorem positionalLabel_injective {i j : Nat}
    (same : TupleElement.positionalLabel i = TupleElement.positionalLabel j) : i = j := by
  have letters := congrArg String.toList same
  simp only [TupleElement.positionalLabel, String.toList_append] at letters
  have read := congrArg Text.decimal? (List.append_cancel_left letters)
  rw [Text.decimal?_toString, Text.decimal?_toString, Option.some.injEq] at read
  exact Nat.succ.inj read

theorem itemPosition?_eq_some_iff {label : String} {n : Nat} :
    itemPosition? label = some n ↔ 0 < n ∧ n < UInt64.size ∧ label = "Item" ++ toString n := by
  simp only [itemPosition?, Option.filter_eq_some_iff, Bool.and_eq_true, decide_eq_true_eq,
    beq_iff_eq]
  constructor
  · rintro ⟨_, ⟨positive, fits⟩, same⟩
    exact ⟨positive, fits, same⟩
  · rintro ⟨positive, fits, rfl⟩
    refine ⟨?_, ⟨positive, fits⟩, rfl⟩
    rw [String.toList_append]
    exact Text.decimal?_toString n

/-- A name may label an element unless every tuple has it already, be it as a member of its own or
as the name of another position. -/
theorem mayLabel_iff {name : String} {position : Nat} :
    mayLabel name position = true ↔
      name ∉ tupleMembers ∧
        ∀ n, 0 < n → n < UInt64.size → name = "Item" ++ toString n → n = position := by
  have free : mayLabel name position = true ↔
      name ∉ tupleMembers ∧ ∀ n, itemPosition? name = some n → n = position := by
    unfold mayLabel
    cases itemPosition? name <;> simp
  simp only [free, itemPosition?_eq_some_iff, and_imp]

/-! ## Names as the host reads them -/

/-- The host reads an escaped name as the name itself. -/
theorem bare_escaped {name : String} (plain : name.toList.head? ≠ some '@') :
    bare (escaped name) = name := by
  unfold escaped bare
  split
  · rw [String.toList_append]
    exact String.ofList_toList
  · rw [bareChars_of_plain plain, String.ofList_toList]

theorem bare_positionalLabel (index : Nat) :
    bare (TupleElement.positionalLabel index) = TupleElement.positionalLabel index := by
  have letters : (TupleElement.positionalLabel index).toList =
      'I' :: ("tem".toList ++ (toString (index + 1)).toList) := String.toList_append
  have plain : (TupleElement.positionalLabel index).toList.head? ≠ some '@' := by
    rw [letters, List.head?_cons]
    decide
  rw [bare, bareChars_of_plain plain, String.ofList_toList]

theorem isDeclarable_escaped {name : String} (valid : isIdentifier name = true)
    (plain : name.toList.head? ≠ some '@') : isDeclarable (escaped name) = true := by
  have seen := bare_escaped plain
  have same : isIdentifier (escaped name) = isIdentifier name := by
    have letters := congrArg String.toList seen
    rw [bare, String.toList_ofList] at letters
    rw [isIdentifier, isIdentifier, letters, bareChars_of_plain plain]
  rw [isDeclarable, same, valid, Bool.true_and, Bool.not_eq_true', isReserved,
    ← Bool.not_eq_true, List.contains_iff_mem]
  intro reserved
  unfold escaped at reserved
  split at reserved
  · exact reservedWords_plain _ reserved (by rw [String.toList_append]; rfl)
  · next free => exact free (List.contains_iff_mem.mpr reserved)

/-- The label of an element as the host reads it off the declaration. -/
def OperandElement.hostLabel (element : OperandElement) : Option String :=
  element.label.map fun label => bare (escaped label)

/-- The positions, counted from zero, of the elements that the host finds under a name, in a tuple
whose elements carry these labels: a label denotes its element, and `ItemK` the element at position
`K`, counted from one. -/
def elementsNamed (labels : List (Option String)) (name : String) : List Nat :=
  (labels.zipIdx.filter fun entry =>
    entry.1 == some name || name == TupleElement.positionalLabel entry.2).map (·.2)

/-- The positions of the elements that an argument reads off the tuple operand; none if it reads no
member of the operand. -/
def elementsRead (elements : List OperandElement) (argument : String) : List Nat :=
  match Text.behind? (Operand.tupleName ++ ".").toList argument.toList with
  | some member => elementsNamed (elements.map (·.hostLabel)) (bare (String.ofList member))
  | none => []

theorem elementsNamed_eq_singleton {labels : List (Option String)} {name : String} {k : Nat}
    (bound : k < labels.length)
    (only : ∀ j label, labels[j]? = some label →
      ((label = some name ∨ name = TupleElement.positionalLabel j) ↔ j = k)) :
    elementsNamed labels name = [k] := by
  have found : labels.zipIdx.filter (fun entry =>
      entry.1 == some name || name == TupleElement.positionalLabel entry.2) =
      labels.zipIdx.filter fun entry => entry.2 == k := by
    refine List.filter_congr fun entry mem => ?_
    rw [Bool.eq_iff_iff, Bool.or_eq_true, beq_iff_eq, beq_iff_eq, beq_iff_eq]
    exact only entry.2 entry.1 (List.mem_zipIdx_iff_getElem?.mp mem)
  have positions : (labels.zipIdx.filter fun entry => entry.2 == k).map (·.2) =
      (labels.zipIdx.map (·.2)).filter (· == k) := by
    rw [List.filter_map]
    rfl
  have once : (List.range' 0 labels.length).count k = 1 := by
    simp [List.count_range', bound]
  rw [elementsNamed, found, positions, List.zipIdx_map_snd, List.filter_beq, once]
  rfl

/-! ## Elements of the operand -/

theorem length_operandElements (position : Nat) (signature : Signature) :
    (operandElements position signature).length = signature.length := by
  have lengths := congrArg List.length (types_operandElements position signature)
  simpa [Signature.types] using lengths

theorem getElem?_operandElements (position : Nat) (signature : Signature) (k : Nat) :
    (operandElements position signature)[k]? = (signature[k]?).map fun element =>
      ⟨element.type, if mayLabel element.name (position + k) then some element.name else none⟩ := by
  induction signature generalizing position k with
  | nil => rfl
  | cons element rest ih =>
      cases k with
      | zero => rfl
      | succ k =>
          rw [operandElements, List.getElem?_cons_succ, List.getElem?_cons_succ, ih]
          simp only [Nat.add_assoc, Nat.add_comm 1 k]

theorem labels_operandElements_sublist (position : Nat) (signature : Signature) :
    ((operandElements position signature).filterMap (·.label)).Sublist
      (signature.map (·.name)) := by
  induction signature generalizing position with
  | nil => exact List.Sublist.slnil
  | cons element rest ih =>
      have tail := ih (position + 1)
      by_cases labels : mayLabel element.name position
      · simpa [operandElements, labels] using tail
      · simpa [operandElements, labels] using tail.cons element.name

theorem elementsRead_member (elements : List OperandElement) (member : String) :
    elementsRead elements (Operand.tupleName ++ "." ++ member) =
      elementsNamed (elements.map (·.hostLabel)) (bare member) := by
  have behind : Text.behind? (Operand.tupleName ++ ".").toList
      (Operand.tupleName ++ "." ++ member).toList = some member.toList :=
    Text.behind?_eq_some_iff.mpr String.toList_append
  simp only [elementsRead, behind, String.ofList_toList]

/-- Whether names can label a host tuple: none carries the verbatim mark, and no two are equal. -/
structure PlainNames (names : List String) : Prop where
  plain : ∀ name ∈ names, name.toList.head? ≠ some '@'
  distinct : names.Nodup

namespace PlainNames

variable {signature : Signature} (names : PlainNames (signature.map (·.name)))

include names

theorem hostLabel_operandElements {k : Nat} {element : OperandElement}
    (found : (operandElements 1 signature)[k]? = some element) :
    element.hostLabel = element.label := by
  rw [getElem?_operandElements] at found
  obtain ⟨source, at_k, rfl⟩ := Option.map_eq_some_iff.mp found
  have plain := names.plain source.name (List.mem_map_of_mem (List.mem_of_getElem? at_k))
  by_cases labels : mayLabel source.name (1 + k)
  · simp [OperandElement.hostLabel, labels, bare_escaped plain]
  · simp [OperandElement.hostLabel, labels]

theorem hostLabels_eq_map_label :
    (operandElements 1 signature).map (·.hostLabel) =
      (operandElements 1 signature).map (·.label) := by
  refine List.map_congr_left fun element mem => ?_
  obtain ⟨k, found⟩ := List.mem_iff_getElem?.mp mem
  exact names.hostLabel_operandElements found

theorem getElem?_hostLabels {k : Nat} {label : String} :
    ((operandElements 1 signature).map (·.hostLabel))[k]? = some (some label) ↔
      ∃ source, signature[k]? = some source ∧ source.name = label ∧
        mayLabel label (k + 1) = true := by
  rw [names.hostLabels_eq_map_label, List.getElem?_map, getElem?_operandElements, Nat.add_comm 1 k]
  cases signature[k]? with
  | none => simp
  | some source =>
      by_cases labels : mayLabel source.name (k + 1)
      · simp only [Option.map_some, labels, if_true, Option.some.injEq]
        constructor
        · rintro rfl
          exact ⟨source, rfl, rfl, labels⟩
        · rintro ⟨_, rfl, same, _⟩
          exact same
      · simp only [Option.map_some, labels, Option.some.injEq]
        refine iff_of_false nofun ?_
        rintro ⟨_, rfl, rfl, labels'⟩
        exact labels labels'

theorem nodup_hostLabels :
    ((operandElements 1 signature).filterMap (·.hostLabel)).Nodup := by
  have same : (operandElements 1 signature).filterMap (·.hostLabel) =
      (operandElements 1 signature).filterMap (·.label) := by
    have mapped := congrArg (List.filterMap id) names.hostLabels_eq_map_label
    simpa [List.filterMap_map] using mapped
  rw [same]
  exact names.distinct.sublist (labels_operandElements_sublist 1 signature)

variable (fits : signature.length < UInt64.size)

include fits

theorem elementsNamed_position {k : Nat} (bound : k < signature.length) :
    elementsNamed ((operandElements 1 signature).map (·.hostLabel))
      (TupleElement.positionalLabel k) = [k] := by
  refine elementsNamed_eq_singleton (by simpa [length_operandElements] using bound) ?_
  intro j label found
  constructor
  · rintro (rfl | same)
    · obtain ⟨_, _, _, labels⟩ := names.getElem?_hostLabels.mp found
      have at_own := (mayLabel_iff.mp labels).2 (k + 1) (Nat.succ_pos k) (by omega) rfl
      exact (Nat.succ.inj at_own).symm
    · exact (positionalLabel_injective same).symm
  · rintro rfl
    exact Or.inr rfl

theorem elementsNamed_label {k : Nat} {source : SignatureElement}
    (at_k : signature[k]? = some source) (labels : mayLabel source.name (k + 1) = true) :
    elementsNamed ((operandElements 1 signature).map (·.hostLabel)) source.name = [k] := by
  have bound : k < signature.length := (List.getElem?_eq_some_iff.mp at_k).choose
  refine elementsNamed_eq_singleton (by simpa [length_operandElements] using bound) ?_
  intro j label found
  constructor
  · rintro (rfl | same)
    · obtain ⟨other, at_j, name, _⟩ := names.getElem?_hostLabels.mp found
      have repeated : (signature.map (·.name))[j]? = (signature.map (·.name))[k]? := by
        simp [at_j, at_k, name]
      have bound' : j < signature.length := (List.getElem?_eq_some_iff.mp at_j).choose
      exact (List.getElem?_inj (by simpa using bound') names.distinct).mp repeated
    · have bound' : j < signature.length := by
        have := (List.getElem?_eq_some_iff.mp found).choose
        simpa [length_operandElements] using this
      have at_own := (mayLabel_iff.mp labels).2 (j + 1) (Nat.succ_pos j) (by omega) same
      exact Nat.succ.inj at_own
  · rintro rfl
    have own := names.getElem?_hostLabels.mpr ⟨source, at_k, rfl, labels⟩
    rw [found, Option.some.injEq] at own
    exact Or.inl own

/-- Each argument reads the element at its own position and no other. -/
theorem elementsRead_arguments :
    (Operand.packed (operandElements 1 signature)).arguments.map
        (elementsRead (operandElements 1 signature)) =
      (List.range signature.length).map fun k => [k] := by
  apply List.ext_getElem?
  intro k
  simp only [Operand.arguments, List.getElem?_map, List.getElem?_mapIdx,
    getElem?_operandElements, Nat.add_comm 1 k]
  cases at_k : signature[k]? with
  | none =>
      have beyond : (List.range signature.length)[k]? = none := by simpa using at_k
      rw [beyond]
      rfl
  | some source =>
      have bound : k < signature.length := (List.getElem?_eq_some_iff.mp at_k).choose
      have plain := names.plain source.name (List.mem_map_of_mem (List.mem_of_getElem? at_k))
      rw [List.getElem?_range bound]
      by_cases labels : mayLabel source.name (k + 1)
      · simp only [Option.map_some, labels, if_true, OperandElement.member]
        rw [elementsRead_member, bare_escaped plain, names.elementsNamed_label fits at_k labels]
      · simp only [Option.map_some, labels, OperandElement.member]
        have own := names.elementsNamed_position fits bound
        rw [elementsRead_member, if_neg Bool.false_ne_true]
        exact congrArg some ((congrArg _ (bare_positionalLabel k)).trans own)

end PlainNames

/-! ## Operands of candidates -/

namespace Candidate

variable {type : TypeDecl} {tuples : TupleSupport} {x : Candidate}

theorem operand_of_lone {only : Parameter} (lone : x.constructor.parameters = [only]) :
    x.operand = .sole only := by
  simp only [operand, Operand.ofConstructor, lone]

theorem not_lone_of_several (several : 2 ≤ x.constructor.parameters.length) :
    ∀ only, x.constructor.parameters = [only] → False := by
  intro only lone
  rw [lone, List.length_singleton] at several
  omega

theorem signature_of_several (mem : x ∈ type.candidates tuples)
    (several : 2 ≤ x.constructor.parameters.length) :
    x.signature = x.constructor.parameters.map fun p => ⟨p.name, p.type⟩ := by
  obtain ⟨_, _, signature⟩ := TypeDecl.mem_candidates.mp mem
  have sole : x.constructor.soleTuple? = none := by
    unfold Constructor.soleTuple?
    split
    · next only lone => exact absurd lone (not_lone_of_several several only)
    · rfl
  rw [signature]
  unfold Constructor.signature
  rw [sole]
  cases tuples <;> rfl

end Candidate

/-- The operand of a candidate hands its constructor every value once and in order. A sole parameter
is the operand itself. Of several parameters the operand is a tuple of their types; its labels are
distinct, legal as written, and no names that a tuple has already; and each argument reads the
element at its own position. The number of parameters is a machine word, as that of every list in
memory. -/
theorem operand_forwards_in_order {type : TypeDecl} {tuples : TupleSupport} {x : Candidate}
    (mem : x ∈ type.candidates tuples) :
    (∀ only, x.constructor.parameters = [only] →
      x.operand = .sole only ∧
      x.operand.declaration = only.type.display ++ " " ++ escaped only.name ∧
      x.operand.arguments = [escaped only.name]) ∧
    (2 ≤ x.constructor.parameters.length →
      PlainNames (x.constructor.parameters.map (·.name)) →
      (∀ p ∈ x.constructor.parameters, isIdentifier p.name = true) →
      ∃ elements, x.operand = .packed elements ∧
        x.operand.declaration =
          "(" ++ ", ".intercalate (elements.map (·.declaration)) ++ ") " ++ Operand.tupleName ∧
        elements.map (·.type) = x.constructor.parameters.map (·.type) ∧
        (∀ element ∈ elements, ∀ label, element.label = some label →
          isDeclarable (escaped label) = true ∧ element.hostLabel = some label) ∧
        (elements.filterMap (·.hostLabel)).Nodup ∧
        (∀ k label, (elements.map (·.hostLabel))[k]? = some (some label) →
          label ∉ tupleMembers ∧
          ∀ n, 0 < n → n < UInt64.size → label = "Item" ++ toString n → n = k + 1) ∧
        (elements.length < UInt64.size →
          x.operand.arguments.map (elementsRead elements) =
            (List.range elements.length).map fun k => [k])) := by
  refine ⟨?_, ?_⟩
  · intro only lone
    rw [Candidate.operand_of_lone lone]
    exact ⟨rfl, rfl, rfl⟩
  · intro several names identifiers
    have signature := Candidate.signature_of_several mem several
    have same : x.signature.map (·.name) = x.constructor.parameters.map (·.name) := by
      rw [signature, List.map_map]
      rfl
    have packed : x.operand = .packed (operandElements 1 x.signature) :=
      Operand.ofConstructor_of_not_lone (Candidate.not_lone_of_several several) x.signature
    rw [← same] at names
    refine ⟨operandElements 1 x.signature, packed, by rw [packed]; rfl, ?_, ?_,
      names.nodup_hostLabels, ?_, ?_⟩
    · rw [types_operandElements, signature, Signature.types, List.map_map]
      rfl
    · intro element mem_elements label labelled
      obtain ⟨k, found⟩ := List.mem_iff_getElem?.mp mem_elements
      have seen := names.hostLabel_operandElements found
      have at_k : ((operandElements 1 x.signature).map (·.hostLabel))[k]? = some (some label) := by
        rw [List.getElem?_map, found, Option.map_some, seen, labelled]
      obtain ⟨source, at_source, rfl, _⟩ := names.getElem?_hostLabels.mp at_k
      have named : source.name ∈ x.constructor.parameters.map (·.name) := by
        rw [← same]
        exact List.mem_map_of_mem (List.mem_of_getElem? at_source)
      obtain ⟨p, p_mem, p_name⟩ := List.mem_map.mp named
      have valid : isIdentifier source.name = true := p_name ▸ identifiers p p_mem
      have plain := names.plain source.name (same ▸ named)
      exact ⟨isDeclarable_escaped valid plain, seen.trans labelled⟩
    · intro k label found
      obtain ⟨_, _, _, labels⟩ := names.getElem?_hostLabels.mp found
      exact mayLabel_iff.mp labels
    · intro fits
      rw [length_operandElements] at fits ⊢
      rw [packed]
      exact names.elementsRead_arguments fits

/-- A type built from values whose names are a later position, a reserved word and a member that
every tuple has. -/
def awkwardDecl : TypeDecl :=
  let number : HostType := .named "System.Int32" "int" .concrete
  { name := "Awkward"
    constructors := [{ parameters := [⟨"Item2", number⟩, ⟨"class", number⟩, ⟨"Rest", number⟩] }] }

def awkwardCandidate : Candidate :=
  ⟨0, awkwardDecl.constructors[0], awkwardDecl.constructors[0].signature .native⟩

/-- Two of the three names are left off, and their elements are read by position. -/
theorem operand_awkwardDecl :
    awkwardCandidate ∈ awkwardDecl.candidates .native ∧
      2 ≤ awkwardCandidate.constructor.parameters.length ∧
      PlainNames (awkwardCandidate.constructor.parameters.map (·.name)) ∧
      (∀ p ∈ awkwardCandidate.constructor.parameters, isIdentifier p.name = true) ∧
      awkwardCandidate.operand.arguments = ["tuple.Item1", "tuple.@class", "tuple.Item3"] ∧
      ∃ elements, awkwardCandidate.operand = .packed elements ∧
        elements.map (·.hostLabel) = [none, some "class", none] ∧
        awkwardCandidate.operand.arguments.map (elementsRead elements) = [[0], [1], [2]] := by
  have mem : awkwardCandidate ∈ awkwardDecl.candidates .native :=
    TypeDecl.mem_candidates.mpr ⟨rfl, rfl, rfl⟩
  have names : PlainNames (awkwardCandidate.constructor.parameters.map (·.name)) :=
    ⟨by decide, by decide⟩
  have identifiers : ∀ p ∈ awkwardCandidate.constructor.parameters,
      isIdentifier p.name = true := by
    intro p p_mem
    simp only [awkwardCandidate, awkwardDecl, List.getElem_cons_zero, List.mem_cons,
      List.not_mem_nil, or_false] at p_mem
    rcases p_mem with rfl | rfl | rfl <;> decide
  obtain ⟨elements, packed, _, _, _, _, _, reads⟩ :=
    (operand_forwards_in_order mem).2 (by decide) names identifiers
  have same : elements = operandElements 1 awkwardCandidate.signature :=
    (Operand.packed.inj packed).symm
  refine ⟨mem, by decide, names, identifiers, by decide, elements, packed, ?_, ?_⟩
  · rw [same]
    decide
  · rw [same] at reads ⊢
    exact reads (by decide)

/-- A type whose first parameter is called after a position that no tuple has. -/
def itemZeroDecl : TypeDecl :=
  let number : HostType := .named "System.Int32" "int" .concrete
  { name := "P", constructors := [{ parameters := [⟨"Item0", number⟩, ⟨"b", number⟩] }] }

/-- Positions are counted from one: `Item0` names none of them and labels the first element. -/
theorem operand_itemZeroDecl :
    ∃ x ∈ itemZeroDecl.candidates .native,
      2 ≤ x.constructor.parameters.length ∧
      PlainNames (x.constructor.parameters.map (·.name)) ∧
      (∀ p ∈ x.constructor.parameters, isIdentifier p.name = true) ∧
      ∃ elements, x.operand = .packed elements ∧
        ¬ ∀ k label, (elements.map (·.hostLabel))[k]? = some (some label) →
          ∀ n, n < UInt64.size → label = "Item" ++ toString n → n = k + 1 := by
  refine ⟨⟨0, itemZeroDecl.constructors[0], itemZeroDecl.constructors[0].signature .native⟩,
    TypeDecl.mem_candidates.mpr ⟨rfl, rfl, rfl⟩, by decide, ⟨by decide, by decide⟩, ?_, _, rfl, ?_⟩
  · intro p p_mem
    simp only [itemZeroDecl, List.getElem_cons_zero, List.mem_cons, List.not_mem_nil,
      or_false] at p_mem
    rcases p_mem with rfl | rfl <;> decide
  · intro own
    have labelled := own 0 "Item0" (by decide) 0 (by decide) (by decide)
    exact absurd labelled (by decide)

end ConversionSynthesis

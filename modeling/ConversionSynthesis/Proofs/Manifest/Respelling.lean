import ConversionSynthesis.Proofs.Batch.Generation
import ConversionSynthesis.Proofs.Manifest.Rewriting
import ConversionSynthesis.Proofs.Naming.Respelling
import ConversionSynthesis.Proofs.TypeExpr.Spelling

/-! # Spelling types differently in a manifest

Decisions do not depend on how types are spelled. A manifest in which types are spelled differently
is accepted if the original one is, and the same is decided about every type and every constructor
of both: the same constructors get conversions, and units go by the same identifiers.
-/

namespace ConversionSynthesis

/-- The second text spells what the first one does, with any number of parts in another spelling. It
may be nested as deeply as any text. -/
def Respells (scope : Scope) (text text' : String) : Prop :=
  ∃ tree tree', Spells text tree ∧ Spells text' tree' ∧ Respelled scope tree tree' ∧
    ∀ level part, TypeExpr.AtLevel tree' level part →
      level + part.suffixCount ≤ TypeExpr.maxDepth

/-- Respelled texts denote types of one essence. -/
theorem carries_respells (scope : Scope) :
    Carries (Respells scope) HostType.SameEssence scope scope := by
  rintro text text' type ⟨tree, tree', spells, spells', respelled, capped⟩ ⟨expr, read, resolved⟩
  obtain ⟨spelled, within⟩ := Spells.of_parse read
  cases spelled.unique spells
  obtain ⟨expr', read', same⟩ := spells'.exists_parse (respelled.within within capped)
  obtain ⟨r, found, rfl⟩ := map_eq_ok.mp resolved
  obtain ⟨r', found', alike⟩ := respelled.alike r ((Scope.resolveType_bare expr r).mpr found)
  rw [← same, Scope.resolveType_bare] at found'
  exact ⟨r'.type, ⟨expr', read', map_eq_ok.mpr ⟨r', found', rfl⟩⟩,
    (congrArg ResolvedType.type alike).symm⟩

namespace Manifest

/-- The same manifest with types spelled differently. -/
structure Respelled (manifest manifest' : Manifest) : Prop where
  frame : manifest' = { manifest with types := manifest'.types }
  types : List.Forall₂
    (fun entry entry' => entry.Rewritten (Respells (entry.inner manifest.scope)) entry')
    manifest.types manifest'.types

variable {manifest manifest' : Manifest}

theorem Respelled.scope_eq (respelled : manifest.Respelled manifest') :
    manifest'.scope = manifest.scope := by
  have declared : manifest'.types.map (·.declared) = manifest.types.map (·.declared) :=
    map_eq_of_forall₂ respelled.types fun _ _ rewritten => by
      rw [rewritten.frame]
      rfl
  have symbols : manifest'.symbols = manifest.symbols := by
    rw [respelled.frame]
  rw [scope, scope, declared, symbols]

theorem Respelled.declarations (respelled : manifest.Respelled manifest') {types : List TypeDecl}
    (accepted : manifest.declarations = .ok types) :
    ∃ types', manifest'.declarations = .ok types' ∧
      List.Forall₂ (TypeDecl.Alike HostType.SameEssence) types types' := by
  obtain ⟨types', declared, like⟩ :=
    forall₂_carry respelled.types (declarations_eq_ok.mp accepted)
      fun _ _ _ rewritten declares => declares.carry (carries_respells _) rewritten
  rw [← respelled.scope_eq] at declared
  exact ⟨types', declarations_eq_ok.mpr declared, like⟩

/-- A respelled manifest is accepted if the original one is. The same is decided about the types of
both, and a batch of either fails alike or gives units under the same identifiers. -/
theorem decisions_respelled {types : List TypeDecl}
    (accepted : manifest.declarations = .ok types) (respelled : manifest.Respelled manifest') :
    ∃ types', manifest'.declarations = .ok types' ∧
      (∀ tuples : TupleSupport, types'.map (fun type => (type.explain tuples).decisions) =
        types.map fun type => (type.explain tuples).decisions) ∧
      ∀ (settings : BatchSettings) (isCancelledAt : Nat → Bool),
        (generateAll settings isCancelledAt types').map (List.map (·.identifier)) =
          (generateAll settings isCancelledAt types).map (List.map (·.identifier)) := by
  obtain ⟨types', accepted', like⟩ := respelled.declarations accepted
  refine ⟨types', accepted', fun tuples => ?_, identifiers_generateAll like⟩
  exact map_eq_of_forall₂ like fun _ _ pair => pair.decisions_eq tuples

/-! ## A type made from texts and tuples -/

/-- A type made from what one text denotes, and from what another one does. -/
def wallet (code parts : String) : Manifest :=
  { types := [{
      name := "Wallet"
      constructors := [
        { parameters := [{ name := "code", type := code }] },
        { parameters := [{ name := "parts", type := parts }] }] }] }

/-- A name of one segment. -/
def nameExpr (word : String) : TypeExpr :=
  .named false [.mk word [] default] default

/-- The builtin type of texts under its canonical name, as a nullable type. -/
def nullableString : TypeExpr :=
  .nullable (.named false [.mk "System" [] default, .mk "String" [] default] default) default

theorem isType_nameExpr (word : String) : Grammar.IsType [.ident word] (nameExpr word) :=
  .mk (.named (.plain (.one (.plain word)))) (.none _)

theorem isType_nullableString :
    Grammar.IsType [.ident "System", .dot, .ident "String", .question] nullableString :=
  .mk (.named (.plain (.more (.plain "System") (.one (.plain "String")))))
    (.more (.question _) (.none _))

theorem respelled_nullableString {scope : Scope} (free : "string" ∉ scope.typeParameters) :
    ConversionSynthesis.Respelled scope (nameExpr "string") nullableString := by
  let builtin : Host.Builtin := ⟨"string", "System.String", false, []⟩
  have known : builtin ∈ Host.builtins := by decide
  have spells : SpellsBuiltin scope builtin (nameExpr "string") :=
    .keyword default default List.mem_cons_self free
  have simple : builtin.simpleName = "String" := by decide
  have spells' : SpellsBuiltin scope builtin
      (.named false [.mk "System" [] default, .mk "String" [] default] default) := by
    rw [← simple]
    exact .dotted false default default default
  obtain ⟨display, resolved⟩ := spells.resolves known
  exact .mark (.builtin known spells spells') ⟨_, resolved, rfl⟩ rfl

theorem respells_string {scope : Scope} (free : "string" ∉ scope.typeParameters) :
    Respells scope "string" "System.String?" := by
  refine ⟨nameExpr "string", nullableString, ?_, ?_, respelled_nullableString free,
    fun _ _ occurs => occurs.le_depth.trans (by decide)⟩
  · exact .of_kinds [.ident "string"] (by decide +kernel) (isType_nameExpr "string")
  · exact .of_kinds [.ident "System", .dot, .ident "String", .question] (by decide +kernel)
      isType_nullableString

theorem respells_pair {scope : Scope} (free : "string" ∉ scope.typeParameters) :
    Respells scope "(int amount, string)" "(int sum, System.String? currency)" := by
  refine ⟨.tuple [.mk (nameExpr "int") (some ("amount", default)),
      .mk (nameExpr "string") none] default,
    .tuple [.mk (nameExpr "int") (some ("sum", default)),
      .mk nullableString (some ("currency", default))] default, ?_, ?_, ?_,
    fun _ _ occurs => occurs.le_depth.trans (by decide)⟩
  · exact .of_kinds
      [.openParen, .ident "int", .ident "amount", .comma, .ident "string", .closeParen]
      (by decide +kernel)
      (.mk (.tuple (.more (.labelled "amount" (isType_nameExpr "int"))
        (.one (.plain (isType_nameExpr "string"))))) (.none _))
  · exact .of_kinds
      [.openParen, .ident "int", .ident "sum", .comma, .ident "System", .dot, .ident "String",
        .question, .ident "currency", .closeParen]
      (by decide +kernel)
      (.mk (.tuple (.more (.labelled "sum" (isType_nameExpr "int"))
        (.one (.labelled "currency" isType_nullableString)))) (.none _))
  · exact .tuple (.cons (.mk (.same _)) (.cons (.mk (respelled_nullableString free)) .nil))
      (by decide)

theorem decisions_respelled_wallet :
    let manifest := wallet "string" "(int amount, string)"
    let manifest' := wallet "System.String?" "(int sum, System.String? currency)"
    ∃ types types', manifest.declarations = .ok types ∧ manifest.Respelled manifest' ∧
      manifest'.declarations = .ok types' ∧
      (∀ tuples : TupleSupport, types'.map (fun type => (type.explain tuples).decisions) =
        types.map fun type => (type.explain tuples).decisions) ∧
      ∀ (settings : BatchSettings) (isCancelledAt : Nat → Bool),
        (generateAll settings isCancelledAt types').map (List.map (·.identifier)) =
          (generateAll settings isCancelledAt types).map (List.map (·.identifier)) := by
  intro manifest manifest'
  have respelled : manifest.Respelled manifest' := by
    refine ⟨rfl, .cons ⟨rfl, .cons ⟨rfl, rfl, rfl, .cons ⟨rfl, ?_⟩ .nil⟩
      (.cons ⟨rfl, rfl, rfl, .cons ⟨rfl, ?_⟩ .nil⟩ .nil), .nil⟩ .nil⟩
    · exact respells_string List.not_mem_nil
    · exact respells_pair List.not_mem_nil
  have evaluated : manifest.declarations.toOption.map List.length = some 1 := by
    decide +kernel
  obtain ⟨types, accepted, -⟩ := toOption_map_eq_some.mp evaluated
  obtain ⟨types', accepted', same⟩ := decisions_respelled accepted respelled
  exact ⟨types, types', accepted, respelled, accepted', same⟩

end Manifest

end ConversionSynthesis

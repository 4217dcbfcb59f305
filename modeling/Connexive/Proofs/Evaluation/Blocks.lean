import Connexive.Proofs.Evaluation.Heuristics
import Connexive.Proofs.Evaluation.Verdict

namespace Connexive.Evaluation

/-! Two evaluations side by side. What may differ between their derivations are the lines of facts
and the notes behind these; around them compounds are laid out alike. So a relation that respects
the layout passes from the parts to the compound.
-/

/-- A relation between derivations that labels, blocks and annotations keep. -/
structure Blockwise (related : List String → List String → Prop) : Prop where
  plain : ∀ {line lines others}, Plain line → related lines others →
    related (line :: lines) (line :: others)
  append : ∀ {lines others rest otherRest}, related lines others → related rest otherRest →
    related (lines ++ rest) (others ++ otherRest)
  indented : ∀ {lines others}, related lines others → related (lines.map indent) (others.map indent)
  annotation : ∀ applies heuristic,
    related (annotationLines applies heuristic) (annotationLines applies heuristic)

/-- Evaluations of one value, with related derivations. -/
structure Beside (related : List String → List String → Prop) (evaluation other : Evaluation) :
    Prop where
  value : evaluation.value = other.value
  derivation : related evaluation.derivation other.derivation

namespace Blockwise

variable {related : List String → List String → Prop} {label : String}
  {part other left right otherLeft otherRight : Evaluation}

theorem nested (blockwise : Blockwise related) (plain : Plain label)
    (beside : Beside related part other) : related (nested label part) (nested label other) :=
  blockwise.plain plain.labelLine (blockwise.indented beside.derivation)

theorem negation (blockwise : Blockwise related) (beside : Beside related part other) :
    Beside related (negation part) (negation other) where
  value := congrArg (!·) beside.value
  derivation := by
    rw [negation_derivation, negation_derivation, beside.value]
    exact blockwise.plain (plain_negationLine _) (blockwise.nested ⟨'I', rfl, by decide⟩ beside)

theorem binary (blockwise : Blockwise related) (op : Connective) (value : Bool)
    (leftBeside : Beside related left otherLeft) (rightBeside : Beside related right otherRight) :
    Beside related (binary op value left right) (binary op value otherLeft otherRight) where
  value := rfl
  derivation := by
    rw [binary_derivation, binary_derivation, leftBeside.value, rightBeside.value]
    exact blockwise.plain (plain_binaryLine _ _ _ _)
      (blockwise.append (blockwise.nested ⟨'L', rfl, by decide⟩ leftBeside)
        (blockwise.nested ⟨'R', rfl, by decide⟩ rightBeside))

theorem conjunction (blockwise : Blockwise related)
    (leftBeside : Beside related left otherLeft) (rightBeside : Beside related right otherRight) :
    Beside related (conjunction left right) (conjunction otherLeft otherRight) := by
  rw [Evaluation.conjunction, Evaluation.conjunction, leftBeside.value, rightBeside.value]
  exact blockwise.binary _ _ leftBeside rightBeside

theorem disjunction (blockwise : Blockwise related)
    (leftBeside : Beside related left otherLeft) (rightBeside : Beside related right otherRight) :
    Beside related (disjunction left right) (disjunction otherLeft otherRight) := by
  rw [Evaluation.disjunction, Evaluation.disjunction, leftBeside.value, rightBeside.value]
  exact blockwise.binary _ _ leftBeside rightBeside

theorem implication (blockwise : Blockwise related) (shape : Implication)
    (leftBeside : Beside related left otherLeft) (rightBeside : Beside related right otherRight) :
    Beside related (implication shape left right) (implication shape otherLeft otherRight) where
  value := by
    have verdict : (Evaluation.implication shape left right).verdict =
        (Evaluation.implication shape otherLeft otherRight).verdict := by
      rw [implication_verdict, implication_verdict, leftBeside.value, rightBeside.value]
    exact congrArg Verdict.value verdict
  derivation := by
    rw [implication_derivation, implication_derivation, leftBeside.value, rightBeside.value]
    refine blockwise.plain (plain_conditionsLine _ _ _ _)
      (blockwise.plain (plain_classicalLine _ _) ?_)
    refine blockwise.append (blockwise.nested ⟨'A', rfl, by decide⟩ leftBeside) ?_
    refine blockwise.append (blockwise.nested ⟨'C', rfl, by decide⟩ rightBeside) ?_
    exact blockwise.append (blockwise.annotation _ _)
      (blockwise.append (blockwise.annotation _ _) (blockwise.annotation _ _))

end Blockwise

end Connexive.Evaluation

import Connexive.Proofs.Command.Cut
import Connexive.Proofs.Formula.Infix
import Connexive.Proofs.Formula.Names

namespace Connexive

/-! The canonical text of a formula is read back as that formula. Its words are the formula in infix
notation, with a group around every compound.
-/

namespace Connective

def tokensBetween (op : Connective) (left right : List String) : List String :=
  "(" :: (left ++ op.keyword :: right ++ [")"])

def tokensBefore (op : Connective) (inner : List String) : List String :=
  "(" :: (op.keyword :: inner ++ [")"])

theorem upper_keyword (op : Connective) : Text.upper op.keyword = op.keyword := by
  cases op <;> decide

theorem keyword_cut (op : Connective) : CutInto (op.keyword.toList ++ [' ']) [op.keyword] := by
  have nonempty : op.keyword.toList ≠ [] := by
    cases op <;> decide
  have bare : op.keyword.toList.all (Lexeme.IsBare ·) = true := by
    cases op <;> decide
  exact .bare nonempty (Lexeme.isBare_of_all bare)

theorem renderBetween_cut (op : Connective) {left right : String} {before after : List String}
    (cutLeft : CutInto left.toList before) (cutRight : CutInto right.toList after) :
    CutInto (op.renderBetween left right).toList (op.tokensBetween before after) := by
  -- The blank behind the left operand is a piece of its own; the one behind the keyword ends it.
  have whole := CutInto.opening.append (cutLeft.append (CutInto.space.append
    (op.keyword_cut.append (cutRight.append CutInto.closing))))
  simpa [renderBetween, tokensBetween] using whole

theorem renderBefore_cut (op : Connective) {inner : String} {tokens : List String}
    (cutInner : CutInto inner.toList tokens) :
    CutInto (op.renderBefore inner).toList (op.tokensBefore tokens) := by
  have whole := CutInto.opening.append (op.keyword_cut.append (cutInner.append CutInto.closing))
  simpa [renderBefore, tokensBefore] using whole

end Connective

theorem renderName_cut {name : String} (quotable : Quotable name) :
    CutInto (renderName name).toList [name] := by
  simpa [renderName] using CutInto.quoted quotable

namespace Formula

/-- The words of the canonical text. -/
def tokens : Formula → List String
  | atom name => [name]
  | not inner => Connective.not.tokensBefore inner.tokens
  | and left right => Connective.and.tokensBetween left.tokens right.tokens
  | or left right => Connective.or.tokensBetween left.tokens right.tokens
  | implies antecedent consequent =>
    Connective.implies.tokensBetween antecedent.tokens consequent.tokens

variable {formula : Formula}

theorem render_cut (quotable : ∀ name ∈ formula.names, Quotable name) :
    CutInto formula.render.toList formula.tokens := by
  induction formula with
  | atom name => exact renderName_cut (quotable name List.mem_cons_self)
  | not inner innerIH => exact Connective.not.renderBefore_cut (innerIH quotable)
  | and left right leftIH rightIH =>
      obtain ⟨inLeft, inRight⟩ := List.forall_mem_append.mp quotable
      exact Connective.and.renderBetween_cut (leftIH inLeft) (rightIH inRight)
  | or left right leftIH rightIH =>
      obtain ⟨inLeft, inRight⟩ := List.forall_mem_append.mp quotable
      exact Connective.or.renderBetween_cut (leftIH inLeft) (rightIH inRight)
  | implies antecedent consequent antecedentIH consequentIH =>
      obtain ⟨inLeft, inRight⟩ := List.forall_mem_append.mp quotable
      exact Connective.implies.renderBetween_cut (antecedentIH inLeft) (consequentIH inRight)

theorem infix_tokens (operands : ∀ name ∈ formula.names, Token.IsOperand name) :
    Infix 5 formula.tokens formula := by
  -- A group is as tight as an operand, so either may stand on any side of any connective.
  induction formula with
  | atom name => exact .operand (operands name List.mem_cons_self)
  | not inner innerIH =>
      have negation := Infix.not Connective.not.upper_keyword (innerIH operands)
      exact .group (negation.loosen (by decide))
  | and left right leftIH rightIH =>
      obtain ⟨inLeft, inRight⟩ := List.forall_mem_append.mp operands
      have conjunction := Infix.and ((leftIH inLeft).loosen (by decide))
        Connective.and.upper_keyword ((rightIH inRight).loosen (by decide))
      exact .group (conjunction.loosen (by decide))
  | or left right leftIH rightIH =>
      obtain ⟨inLeft, inRight⟩ := List.forall_mem_append.mp operands
      have disjunction := Infix.or ((leftIH inLeft).loosen (by decide))
        Connective.or.upper_keyword ((rightIH inRight).loosen (by decide))
      exact .group (disjunction.loosen (by decide))
  | implies antecedent consequent antecedentIH consequentIH =>
      obtain ⟨inLeft, inRight⟩ := List.forall_mem_append.mp operands
      have implication := Infix.implies ((antecedentIH inLeft).loosen (by decide))
        Connective.implies.upper_keyword ((consequentIH inRight).loosen (by decide))
      exact .group implication

end Formula

/-- A name that can be written into a line and read from it. -/
structure Legible (name : String) : Prop where
  quotable : Quotable name
  isOperand : Token.IsOperand name

/-- The words of the line are parsed as the formula. -/
def ReadsAs (line : String) (formula : Formula) : Prop :=
  ∃ tokens, tokenize line = .ok tokens ∧ Formula.parse tokens = .ok formula

variable {line : String} {formula : Formula}

theorem readsAs_render (legible : ∀ name ∈ formula.names, Legible name) :
    ReadsAs formula.render formula := by
  have cut := Formula.render_cut fun name member => (legible name member).quotable
  have written := Formula.infix_tokens fun name member => (legible name member).isOperand
  exact ⟨formula.tokens, cut.tokenize_eq,
    Formula.parse_iff.mpr (written.loosen (by decide)).read_eq⟩

theorem ReadsAs.legible (reads : ReadsAs line formula) : ∀ name ∈ formula.names, Legible name := by
  obtain ⟨tokens, cut, parsed⟩ := reads
  intro name member
  rw [Formula.names_of_read (Formula.parse_iff.mp parsed), mem_operandsOf_iff] at member
  exact ⟨quotable_of_tokenize cut name member.1, member.2⟩

/-- The canonical text is read back as its formula, if every name is legible. What is read from any
line at all has legible names. -/
theorem render_readsAs :
    (∀ formula : Formula, (∀ name ∈ formula.names, Legible name) →
      ReadsAs formula.render formula) ∧
    ∀ (line : String) (formula : Formula), ReadsAs line formula →
      ReadsAs formula.render formula :=
  ⟨fun _ legible => readsAs_render legible,
    fun _ _ reads => readsAs_render reads.legible⟩

/-- A name may hold blanks, parentheses and keywords, as long as it is more than one of these. -/
theorem render_readsAs_spaced_name :
    ReadsAs "(\"not (a\nAND b)\" OR (NOT \"c\"))"
        (.or (.atom "not (a\nAND b)") (.not (.atom "c"))) ∧
      ReadsAs "not(c)" (.not (.atom "c")) ∧ ReadsAs "(NOT \"c\")" (.not (.atom "c")) := by
  have read : ReadsAs "not(c)" (.not (.atom "c")) := ⟨["not", "(", "c", ")"], rfl, rfl⟩
  refine ⟨render_readsAs.1 (.or (.atom "not (a\nAND b)") (.not (.atom "c"))) ?_, read,
    render_readsAs.2 "not(c)" (.not (.atom "c")) read⟩
  intro name member
  have either : name = "not (a\nAND b)" ∨ name = "c" := by
    simpa [Formula.names] using member
  rcases either with rfl | rfl
  · exact ⟨⟨by decide, by decide⟩, by decide⟩
  · exact ⟨⟨by decide, by decide⟩, by decide⟩

end Connexive

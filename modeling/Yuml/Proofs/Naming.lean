import Yuml.Drawing
import Yuml.Proofs.Cutting

/-!
# Names: how the nodes of a drawing are told apart

A node is written as `A` and its number, and where an edge ends as the name of a node, with port and
compass point behind colons where it enters a bar. Decimal digits are digits only and tell numbers
apart (`Text.ofNat_injective`), so names do (`nodeName_injective`), and the part of a target in
front of its first colon is the name of the node (`namedBy_portTarget`).
-/

namespace Yuml

namespace Text

theorem isDigit_of_mem_ofNat {n : Nat} {c : Char} (h : c ∈ ofNat n) : c.isDigit = true :=
  Nat.isDigit_of_mem_toDigits (by decide) (by decide) h

theorem not_mem_ofNat {c : Char} (hc : c.isDigit = false) (n : Nat) : c ∉ ofNat n := by
  intro h
  rw [isDigit_of_mem_ofNat h] at hc
  cases hc

theorem ofNat_injective {m n : Nat} (h : ofNat m = ofNat n) : m = n := by
  have hm : Nat.ofDigitChars 10 (ofNat m) 0 = m := Nat.ofDigitChars_ten_toDigits
  have hn : Nat.ofDigitChars 10 (ofNat n) 0 = n := Nat.ofDigitChars_ten_toDigits
  rw [← hm, ← hn, h]

end Text

theorem nodeName_injective {m n : Nat} (h : nodeName m = nodeName n) : m = n :=
  Text.ofNat_injective (List.cons.inj h).2

theorem not_mem_nodeName {c : Char} (hA : c ≠ 'A') (hc : c.isDigit = false) (n : Nat) :
    c ∉ nodeName n := by
  intro h
  rcases List.mem_cons.mp h with h | h
  · exact hA h
  · exact Text.not_mem_ofNat hc n h

/-- The part of a target that names a node: what stands in front of the first colon. -/
def namedBy (target : Text) : Text := target.takeWhile (· != ':')

theorem namedBy_of_not_mem {name : Text} (h : ':' ∉ name) : namedBy name = name := by
  refine List.takeWhile_eq_self_iff.mpr fun c hc => ?_
  exact bne_iff_ne.mpr fun e => h (e ▸ hc)

theorem namedBy_append {name : Text} (h : ':' ∉ name) (rest : Text) :
    namedBy (name ++ ':' :: rest) = name := by
  have hp : ∀ c ∈ name, (c != ':') = true := fun c hc => bne_iff_ne.mpr fun e => h (e ▸ hc)
  rw [namedBy, List.takeWhile_append_of_pos hp]
  exact List.append_nil name

/-- How a target is written: the name of a node, with the port that is entered or without one. -/
def portTarget (name : Text) (d : Direction) : Option Int → Text
  | none => name
  | some port => name ++ ":f".toList ++ Text.ofInt port ++ ':' :: d.headPort

theorem target_eq_portTarget (e : Element) {r : Relation} {n : Nat} (hn : r.target = n)
    (d : Direction) : e.target r d = portTarget (nodeName n) (e.entryDirection d) r.port := by
  unfold Element.target
  rw [hn]
  cases r.port <;> rfl

/-- **A target names the node that it was written for**, with a port or without. -/
theorem namedBy_portTarget (n : Nat) (d : Direction) (port : Option Int) :
    namedBy (portTarget (nodeName n) d port) = nodeName n := by
  have hcolon : ':' ∉ nodeName n := not_mem_nodeName (by decide) (by decide) n
  cases port with
  | none => exact namedBy_of_not_mem hcolon
  | some port =>
    rw [portTarget, List.append_assoc, List.append_assoc]
    exact namedBy_append hcolon _

end Yuml

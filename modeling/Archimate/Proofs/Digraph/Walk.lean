import Archimate.Digraph
import Mathlib.Logic.Relation

namespace Archimate.Digraph
open Relation

variable {g : Digraph} {closed : List Text}

def Edge (g : Digraph) (a b : Text) : Prop := b ∈ g.targets a

def OpenEdge (g : Digraph) (closed : List Text) (a b : Text) : Prop := g.Edge a b ∧ b ∉ closed

abbrev Reaches (g : Digraph) : Text → Text → Prop := ReflTransGen g.Edge

abbrev OpenReaches (g : Digraph) (closed : List Text) : Text → Text → Prop :=
  ReflTransGen (g.OpenEdge closed)

def OnCycle (g : Digraph) (node : Text) : Prop := TransGen g.Edge node node

def OnOpenCycle (g : Digraph) (closed : List Text) (node : Text) : Prop :=
  TransGen (g.OpenEdge closed) node node

theorem OpenReaches.reaches {a b : Text} (h : g.OpenReaches closed a b) : g.Reaches a b :=
  ReflTransGen.mono (fun _ _ e => e.1) _ _ h

theorem OnOpenCycle.onCycle {node : Text} (h : g.OnOpenCycle closed node) : g.OnCycle node :=
  TransGen.mono (fun _ _ e => e.1) _ _ h

/-- A walk is open when nothing between its ends is closed; its first node does not matter. -/
theorem openWalk_of_between {a b : Text} (h : TransGen g.Edge a b)
    (hopen : ∀ node, g.Reaches a node → g.Reaches node b → node ∉ closed) :
    TransGen (g.OpenEdge closed) a b := by
  induction h with
  | single e => exact TransGen.single ⟨e, hopen _ (ReflTransGen.single e) ReflTransGen.refl⟩
  | tail walk e ih =>
    have hreach := walk.to_reflTransGen.tail e
    apply TransGen.tail (ih fun node ha hb => hopen node ha (hb.tail e))
    exact ⟨e, hopen _ hreach ReflTransGen.refl⟩

theorem mem_of_openReaches {P : Text → Prop} (hP : ∀ a b, P a → g.OpenEdge closed a b → P b)
    {a b : Text} (ha : P a) (h : g.OpenReaches closed a b) : P b := by
  induction h with
  | refl => exact ha
  | tail _ e ih => exact hP _ _ ih e

end Archimate.Digraph

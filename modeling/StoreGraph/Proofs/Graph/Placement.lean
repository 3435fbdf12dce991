import StoreGraph.Proofs.Creation
import StoreGraph.Proofs.Graph.Shape

/-! # Where stores are placed

Stores that were made from new cells: their leaves are empty, and if every dedup store is a new one,
nothing is marked and no leaf is used for marks. Making one more store out of new cells and of
stores made before keeps this (`Placed.memory`, `Placed.sharded`, `Placed.redundant`).
-/

namespace StoreGraph

open Store

/-- More cells were taken, and the cells that were taken before hold what they held. -/
structure Grows (w w' : World) : Prop where
  memories : w.memories.next ≤ w'.memories.next
  tokens : w.tokens.next ≤ w'.tokens.next
  entries : ∀ cell : Ref .memory, cell.index < w.memories.next → w'.entries cell = w.entries cell

namespace Grows

theorem refl (w : World) : Grows w w := ⟨Nat.le_refl _, Nat.le_refl _, fun _ _ => rfl⟩

theorem reporting (w : World) (event : Event) : Grows w (w.reporting event) :=
  ⟨Nat.le_refl _, Nat.le_refl _, fun _ _ => rfl⟩

theorem withPool (w : World) : Grows w w.withPool :=
  ⟨Nat.le_refl _, Nat.le_refl _, fun _ _ => rfl⟩

theorem withToken (w : World) : Grows w w.withToken :=
  ⟨Nat.le_refl _, Nat.le_succ _, fun _ _ => rfl⟩

theorem withMemory (w : World) : Grows w w.withMemory where
  memories := Nat.le_succ _
  tokens := Nat.le_refl _
  entries cell taken := by
    rw [World.entries, World.withMemory, Table.get_alloc_of_lt _ taken, World.entries]

theorem trans {w₁ w₂ w₃ : World} (first : Grows w₁ w₂) (second : Grows w₂ w₃) : Grows w₁ w₃ where
  memories := Nat.le_trans first.memories second.memories
  tokens := Nat.le_trans first.tokens second.tokens
  entries cell taken := by
    rw [second.entries cell (Nat.lt_of_lt_of_le taken first.memories), first.entries cell taken]

end Grows

/-- A cell that was taken and holds nothing. -/
structure Blank (cell : Ref .memory) (w : World) : Prop where
  taken : cell.index < w.memories.next
  empty : w.entries cell = .empty

theorem Blank.grow {cell : Ref .memory} {w w' : World} (h : Blank cell w) (grows : Grows w w') :
    Blank cell w' :=
  ⟨Nat.lt_of_lt_of_le h.taken grows.memories, (grows.entries cell h.taken).trans h.empty⟩

theorem blank_withMemory (w : World) : Blank ⟨w.memories.next⟩ w.withMemory where
  taken := Nat.lt_succ_self _
  empty := by
    rw [World.entries, World.withMemory]
    exact congrArg Memory.entries (Table.get_alloc_self w.memories {})

/-- The stores of a family were made from new cells. What is said of marks holds if all dedup stores
    are new ones, which is expressed by `free`. -/
structure Placed (free : Prop) (family : Store → Prop) (w : World) : Prop where
  wired : ∀ {s}, family s → s.Wired
  leaf : ∀ {s cell}, family s → s.Leaf cell → Blank cell w
  priv : free → ∀ {s}, family s → s.Private
  marks : free → ∀ {s cell}, family s → s.Marks cell → Blank cell w
  tokens : free → ∀ {s token}, family s → s.Tokens token → token.index < w.tokens.next
  apart : free → ∀ {s s' cell}, family s → family s' → s.Marks cell → ¬ s'.Leaf cell

namespace Placed

variable {free : Prop} {family family' : Store → Prop} {w w' : World}

theorem none (w : World) : Placed free (fun _ => False) w :=
  ⟨nofun, nofun, nofun, nofun, nofun, nofun⟩

theorem mono (h : Placed free family w) (fewer : ∀ s, family' s → family s) :
    Placed free family' w where
  wired member := h.wired (fewer _ member)
  leaf member := h.leaf (fewer _ member)
  priv all _ member := h.priv all (fewer _ member)
  marks all _ _ member := h.marks all (fewer _ member)
  tokens all _ _ member := h.tokens all (fewer _ member)
  apart all _ _ _ member member' := h.apart all (fewer _ member) (fewer _ member')

theorem grow (h : Placed free family w) (grows : Grows w w') : Placed free family w' where
  wired member := h.wired member
  leaf member leaf := (h.leaf member leaf).grow grows
  priv all _ member := h.priv all member
  marks all _ _ member marks := (h.marks all member marks).grow grows
  tokens all _ _ member tokens :=
    Nat.lt_of_lt_of_le (h.tokens all member tokens) grows.tokens
  apart all _ _ _ member member' := h.apart all member member'

/-- One more store may be counted to a family. -/
theorem add (h : Placed free family w) {s : Store} (wired : s.Wired)
    (leaf : ∀ {cell}, s.Leaf cell → Blank cell w) (priv : free → s.Private)
    (marks : free → ∀ {cell}, s.Marks cell → Blank cell w)
    (tokens : free → ∀ {token}, s.Tokens token → token.index < w.tokens.next)
    (spares : free → ∀ {s' cell}, family s' → s'.Marks cell → ¬ s.Leaf cell)
    (apart : free → ∀ {s' cell}, family s' ∨ s' = s → s.Marks cell → ¬ s'.Leaf cell) :
    Placed free (fun s' => family s' ∨ s' = s) w where
  wired either := by
    obtain member | rfl := either
    · exact h.wired member
    · exact wired
  leaf either below := by
    obtain member | rfl := either
    · exact h.leaf member below
    · exact leaf below
  priv all _ either := by
    obtain member | rfl := either
    · exact h.priv all member
    · exact priv all
  marks all _ _ either own := by
    obtain member | rfl := either
    · exact h.marks all member own
    · exact marks all own
  tokens all _ _ either own := by
    obtain member | rfl := either
    · exact h.tokens all member own
    · exact tokens all own
  apart all _ _ _ either either' := by
    obtain member | rfl := either
    · obtain member' | rfl := either'
      · exact h.apart all member member'
      · exact spares all member
    · exact apart all either'

/-- A store over a new memory cell. -/
theorem memory (h : Placed free family w) :
    Placed free (fun s => family s ∨ s = .memory ⟨w.memories.next⟩) w.withMemory := by
  apply (h.grow (Grows.withMemory w)).add
  case wired => exact .memory _
  case priv => exact fun _ => .memory _
  case marks => exact fun _ _ => nofun
  case tokens => exact fun _ _ => nofun
  case apart => exact fun _ _ _ _ => nofun
  case leaf =>
    intro cell leaf
    cases leaf with
    | memory => exact blank_withMemory w
  case spares =>
    intro all s cell member marks leaf
    cases leaf with
    | memory => exact Nat.lt_irrefl _ (h.marks all member marks).taken

/-- A store sharded over stores of the family. -/
theorem sharded (h : Placed free family w) {pool : ShardPool} {stock : List Store}
    (ready : pool.opening = .ready) (count : pool.count = stock.length) (some : stock ≠ [])
    (members : ∀ s ∈ stock, family s) :
    Placed free (fun s => family s ∨ s = .sharded pool stock) w := by
  have within : ∀ {cell}, Leaf (.sharded pool stock) cell → ∃ s, family s ∧ s.Leaf cell := by
    intro cell leaf
    cases leaf with
    | sharded listed leaf => exact ⟨_, members _ listed, leaf⟩
  apply h.add
  case wired => exact .sharded ready count some fun s listed => h.wired (members s listed)
  case priv => exact fun all => .sharded fun s listed => h.priv all (members s listed)
  case leaf =>
    intro cell leaf
    obtain ⟨s, member, leaf⟩ := within leaf
    exact h.leaf member leaf
  case marks =>
    intro all cell marks
    cases marks with
    | sharded listed marks => exact h.marks all (members _ listed) marks
  case tokens =>
    intro all token tokens
    cases tokens with
    | sharded listed tokens => exact h.tokens all (members _ listed) tokens
  case spares =>
    intro all s cell member marks leaf
    obtain ⟨s', member', leaf⟩ := within leaf
    exact h.apart all member member' marks leaf
  case apart =>
    intro all s cell either marks leaf
    obtain ⟨s', member', leaf⟩ : ∃ s', family s' ∧ s'.Leaf cell := by
      obtain member | rfl := either
      · exact ⟨s, member, leaf⟩
      · exact within leaf
    cases marks with
    | sharded listed marks => exact h.apart all (members _ listed) member' marks leaf

/-- A redundant store over stores of the family, with a new token. If all dedup stores are new ones,
    so is this one. -/
theorem redundant (h : Placed free family w) {demand : Quorum} {backs : List Store}
    {token : Ref .token} {offload : Store} (some : backs ≠ [])
    (few : demand.needed ≤ backs.length) (members : ∀ s ∈ backs, family s)
    (taken : token.index < w.tokens.next) (new : free → ∀ s, family s → ¬ s.Tokens token)
    (fresh : free → ∃ cell, offload = .memory cell ∧ Blank cell w ∧
      ∀ s, family s → ¬ s.Leaf cell ∧ ¬ s.Marks cell) :
    Placed free
      (fun s => family s ∨ s = .redundant (.quorum demand) backs (.offloaded token) offload) w := by
  have within : ∀ {cell}, Leaf (.redundant (.quorum demand) backs (.offloaded token) offload) cell →
      ∃ s, family s ∧ s.Leaf cell := by
    intro cell leaf
    cases leaf with
    | redundant listed leaf => exact ⟨_, members _ listed, leaf⟩
  apply h.add
  case wired => exact .redundant some few fun s listed => h.wired (members s listed)
  case priv =>
    intro all
    obtain ⟨cell, rfl, blank, unused⟩ := fresh all
    exact .redundant (fun s listed => h.priv all (members s listed))
      (fun s listed => (unused s (members s listed)).1)
      (fun s listed => (unused s (members s listed)).2)
      fun s listed => new all s (members s listed)
  case leaf =>
    intro cell leaf
    obtain ⟨s, member, leaf⟩ := within leaf
    exact h.leaf member leaf
  case marks =>
    intro all cell marks
    obtain ⟨cell', rfl, blank, unused⟩ := fresh all
    cases marks with
    | copy listed marks => exact h.marks all (members _ listed) marks
    | own => exact blank
  case tokens =>
    intro all token tokens
    cases tokens with
    | copy listed tokens => exact h.tokens all (members _ listed) tokens
    | own => exact taken
  case spares =>
    intro all s cell member marks leaf
    obtain ⟨s', member', leaf⟩ := within leaf
    exact h.apart all member member' marks leaf
  case apart =>
    intro all s cell either marks leaf
    obtain ⟨s', member', leaf⟩ : ∃ s', family s' ∧ s'.Leaf cell := by
      obtain member | rfl := either
      · exact ⟨s, member, leaf⟩
      · exact within leaf
    obtain ⟨cell', rfl, blank, unused⟩ := fresh all
    cases marks with
    | copy listed marks => exact h.apart all (members _ listed) member' marks leaf
    | own => exact (unused s' member').1 leaf

end Placed

end StoreGraph

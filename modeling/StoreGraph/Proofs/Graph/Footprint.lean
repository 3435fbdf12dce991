import StoreGraph.Proofs.Graph.Shape
import StoreGraph.Proofs.Redundant.Marks

/-! # What an enumeration touches

The footprint of a store is made of its leaves, the cells in which it marks keys and the cells of
its tokens. An enumeration changes marks and tokens only; its visitor is supposed to change nothing
of the footprint. Between enumerations nothing is marked.
-/

namespace StoreGraph

/-- At most the given cells differ between the two worlds. -/
structure Only (cells : Ref .memory → Prop) (tokens : Ref .token → Prop) (w w' : World) :
    Prop where
  entries : ∀ cell, ¬ cells cell → w'.entries cell = w.entries cell
  current : ∀ token, ¬ tokens token → w'.tokens.get token = w.tokens.get token

namespace Only

variable {cells cells' : Ref .memory → Prop} {tokens tokens' : Ref .token → Prop}
  {w w' w₁ w₂ w₃ : World}

theorem refl (w : World) : Only cells tokens w w := ⟨fun _ _ => rfl, fun _ _ => rfl⟩

theorem trans (first : Only cells tokens w₁ w₂) (second : Only cells tokens w₂ w₃) :
    Only cells tokens w₁ w₃ where
  entries cell h := (second.entries cell h).trans (first.entries cell h)
  current token h := (second.current token h).trans (first.current token h)

theorem mono (more : ∀ cell, cells cell → cells' cell)
    (further : ∀ token, tokens token → tokens' token) (h : Only cells tokens w w') :
    Only cells' tokens' w w' where
  entries cell h' := h.entries cell (mt (more cell) h')
  current token h' := h.current token (mt (further token) h')

theorem mark {cell : Ref .memory} (own : cells cell) (w : World) (token : Ref .token)
    (key : Bytes) : Only cells tokens w (w.mark cell token key) where
  entries cell' h := by
    have other : cell' ≠ cell := fun same => h (same ▸ own)
    rw [World.mark, World.entries_put, if_neg other]
  current _ _ := rfl

theorem tidied {cell : Ref .memory} {token : Ref .token} (own : cells cell)
    (own' : tokens token) (w : World) : Only cells tokens w (w.tidied cell token) where
  entries cell' h := by
    have other : cell' ≠ cell := fun same => h (same ▸ own)
    rw [World.entries_tidied, if_neg other]
  current token' h := by
    have other : token' ≠ token := fun same => h (same ▸ own')
    exact Table.get_set_of_ne _ other _

end Only

/-- The cells of one store, or of several. -/
structure Footprint where
  leaf : Ref .memory → Prop
  marks : Ref .memory → Prop
  tokens : Ref .token → Prop

namespace Footprint

def of (s : Store) : Footprint := ⟨s.Leaf, s.Marks, s.Tokens⟩

def ofAll (stores : List Store) : Footprint where
  leaf cell := ∃ s ∈ stores, s.Leaf cell
  marks cell := ∃ s ∈ stores, s.Marks cell
  tokens token := ∃ s ∈ stores, s.Tokens token

/-- Changes to marks and tokens. -/
def Quiet (f : Footprint) : World → World → Prop := Only f.marks f.tokens

/-- Changes that spare the footprint. -/
def Outside (f : Footprint) : World → World → Prop :=
  Only (fun cell => ¬ f.leaf cell ∧ ¬ f.marks cell) fun token => ¬ f.tokens token

/-- No leaf is a cell in which keys are marked. -/
def Apart (f : Footprint) : Prop := ∀ cell, f.marks cell → ¬ f.leaf cell

/-- Nothing is marked. -/
def Clean (f : Footprint) (w : World) : Prop := ∀ cell, f.marks cell → w.entries cell = .empty

/-- A leaf holds something under the key. -/
def Holds (f : Footprint) (w : World) (key : Bytes) : Prop :=
  ∃ cell, f.leaf cell ∧ (w.entries cell).get? key ≠ none

/-- The first footprint is part of the second one. -/
structure Part (f g : Footprint) : Prop where
  leaf : ∀ {cell}, f.leaf cell → g.leaf cell
  marks : ∀ {cell}, f.marks cell → g.marks cell
  tokens : ∀ {token}, f.tokens token → g.tokens token

variable {f g : Footprint} {w w' : World}

theorem part_ofAll {s : Store} {stores : List Store} (member : s ∈ stores) :
    (of s).Part (ofAll stores) :=
  ⟨fun h => ⟨s, member, h⟩, fun h => ⟨s, member, h⟩, fun h => ⟨s, member, h⟩⟩

theorem Part.outside (part : f.Part g) (h : g.Outside w w') : f.Outside w w' :=
  Only.mono (fun _ h => ⟨mt part.leaf h.1, mt part.marks h.2⟩) (fun _ h => mt part.tokens h) h

theorem Part.quiet (part : f.Part g) (h : f.Quiet w w') : g.Quiet w w' :=
  Only.mono (fun _ => part.marks) (fun _ => part.tokens) h

theorem Clean.part (clean : g.Clean w) (part : f.Part g) : f.Clean w :=
  fun cell h => clean cell (part.marks h)

/-- What the leaves hold depends on the leaves only. -/
theorem holds_congr (same : ∀ cell, f.leaf cell → w'.entries cell = w.entries cell) (key : Bytes) :
    f.Holds w' key ↔ f.Holds w key := by
  constructor
  · intro holds
    obtain ⟨cell, leaf, held⟩ := holds
    exact ⟨cell, leaf, same cell leaf ▸ held⟩
  · intro holds
    obtain ⟨cell, leaf, held⟩ := holds
    exact ⟨cell, leaf, (same cell leaf).symm ▸ held⟩

variable {τ : Type} {visit : Bytes → VisitM τ Unit} {start stop : World × τ} {keys : List Bytes}
  {ending : Ending}

/-- The enumeration of a part leaves the leaves of the whole alone. -/
theorem leaves_kept (part : f.Part g) (apart : g.Apart)
    (outside : ∀ key, Leaves g.Outside (visit key))
    (course : Shows f.Quiet visit start keys ending stop) (cell : Ref .memory)
    (leaf : g.leaf cell) : stop.1.entries cell = start.1.entries cell := by
  let Same (w w' : World) : Prop := w'.entries cell = w.entries cell
  have quiet : ∀ w w', f.Quiet w w' → Same w w' := fun w w' h =>
    h.entries cell fun marks => apart cell (part.marks marks) leaf
  have visits : ∀ key, Leaves Same (visit key) := fun key s =>
    (outside key s).entries cell fun h => h.1 leaf
  exact (course.mono quiet).leaves (fun _ _ _ first second => second.trans first) visits

/-- If nothing of the whole is marked before the enumeration of a part, and nothing of the part
    after it, then nothing of the whole is. -/
theorem clean_kept (outside : ∀ key, Leaves g.Outside (visit key)) (clean : g.Clean start.1)
    (course : Shows f.Quiet visit start keys ending stop) (clean' : f.Clean stop.1) :
    g.Clean stop.1 := by
  intro cell marks
  by_cases own : f.marks cell
  · exact clean' cell own
  · let Same (w w' : World) : Prop := w'.entries cell = w.entries cell
    have quiet : ∀ w w', f.Quiet w w' → Same w w' := fun w w' h => h.entries cell own
    have visits : ∀ key, Leaves Same (visit key) := fun key s =>
      (outside key s).entries cell fun h => h.2 marks
    have same : stop.1.entries cell = start.1.entries cell :=
      (course.mono quiet).leaves (fun _ _ _ first second => second.trans first) visits
    rw [same, clean cell marks]

end Footprint

end StoreGraph

import TierSplit.Proofs.Conversion

/-! In a converted tree the kind of a node tells its role: only labeled statements are labeled, and
functions and identifiers have the kinds of functions and identifiers. -/

namespace TierSplit.Concrete

structure Fits (n : Syntax.Node) : Prop where
  labeled : ∀ label, n.role = .labeled label → n.kind = "labeled_statement"
  function : n.isFunction = true → n.kind ∈ functionKinds
  identifier : n.isIdentifier = true → n.kind ∈ identifierKinds

theorem role_fits {bytes : ByteArray} {n : Node} {r : Syntax.Role} (h : role bytes n = .ok r)
    (field : Option String) (words : List String) (children : List Syntax.Node) :
    Fits ⟨r, n.kind, n.start, n.stop, field, words, children⟩ := by
  unfold role at h
  split at h
  · next hk =>
    obtain ⟨l, rfl⟩ : ∃ l, r = .labeled l := by
      cases hl : labelText bytes n with
      | error e => rw [hl] at h; cases h
      | ok l => rw [hl] at h; cases h; exact ⟨l, rfl⟩
    exact ⟨fun _ _ => (by simpa using hk), nofun, nofun⟩
  split at h
  · next hk =>
    cases h
    exact ⟨nofun, fun _ => (by simpa using hk), nofun⟩
  split at h
  · cases h
    exact ⟨nofun, nofun, nofun⟩
  split at h
  · next hk =>
    obtain ⟨name, rfl⟩ : ∃ name, r = .identifier name := by
      cases hs : Source.slice bytes n.start n.stop with
      | error e => rw [hs] at h; cases h
      | ok name => rw [hs] at h; cases h; exact ⟨name, rfl⟩
    exact ⟨nofun, nofun, fun _ => by simpa using hk⟩
  · cases h
    exact ⟨nofun, nofun, nofun⟩

theorem toSyntax_fits {bytes : ByteArray} {root : Node} {program : Syntax.Node}
    (h : toSyntax bytes root = .ok program) : program.Everywhere Fits := by
  rw [toSyntax_eq] at h
  refine convert_everywhere (P := fun _ => True) (fun m n hm _ => ?_) h fun _ _ => trivial
  obtain ⟨r, kind, start, stop, own, words, children⟩ := m
  obtain ⟨hrole, rfl, rfl, rfl, -, -⟩ := hm
  exact role_fits hrole own words children

end TierSplit.Concrete

import AccessControl.Proofs.Compile.Invariant

/-!
# What the flags of an entry say

The entry made for one action is flagged for the other action too when the other's grant includes
its own. Two entries of a block that are both flagged for both actions would include each other, so
there are no such two (`Block.countP_servesBoth_le_one`). On a block without the default name in a
set, as all compiled ones are (`Index.defaultResource_not_mem_compile`), the flags say what the
checks would: an action is flagged exactly when its grant allows each resource that the entry's
grant allows (`Block.serves_iff_covers`).
-/
namespace AccessControl

def FlatPermission.servesBoth (e : FlatPermission) : Bool := e.read && e.write

namespace Block

/-- At most one entry of a block serves both actions, since inclusion is antisymmetric. -/
theorem countP_servesBoth_le_one (key : BlockKey) (b : Block) :
    (b.flatten key).countP FlatPermission.servesBoth ≤ 1 := by
  have shape := shape_flatten key b
  revert shape
  generalize flatten key b = run
  intro shape
  cases shape with
  | void => simp
  | joint | reading | writing => exact List.countP_le_length
  | apart differ =>
    cases covered : b.write.includes b.read with
    | false =>
      rw [List.countP_cons_of_neg (by simp [FlatPermission.servesBoth])]
      exact List.countP_le_length
    | true =>
      have uncovered : b.read.includes b.write = false := by
        rw [Bool.eq_false_iff]
        intro back
        exact differ (Grant.includes_antisymm back covered)
      simp [FlatPermission.servesBoth, uncovered]

/-- Where the default name stands in no set, an entry serves the actions whose grants allow all that
its own grant allows. -/
theorem serves_iff_covers {key : BlockKey} {b : Block} {e : FlatPermission}
    (unmarked : ∀ a, defaultResource ∉ (b.grant a).resources) (member : e ∈ b.flatten key)
    (a : Access) : e.serves a = true ↔ (b.grant a).Covers e.resources := by
  obtain ⟨own, same⟩ := exists_grant_of_mem_flatten member
  rw [serves_eq_includes member, same]
  constructor
  · exact Grant.covers_of_includes
  · exact Grant.includes_of_covers (unmarked a) (unmarked own)

end Block

namespace Index

theorem defaultResource_not_mem_compile {sources : List RoleSource} {key : BlockKey} {block : Block}
    (listed : (key, block) ∈ (compile sources).blocks) (a : Access) :
    defaultResource ∉ (block.grant a).resources := by
  intro member
  have kept := wellFormed_compile sources key block ((find?_eq_some_iff _ key block).mpr listed)
  exact ((kept.plain a).ordinary defaultResource member).notDefault rfl

/-- Inclusion is coverage. It is a partial order of the grants, what is included is allowed, and
where the default name stands in no set what is allowed is included. Hence at most one entry of a
block serves both actions; and in a compiled block, where the default name stands in no set, an
entry serves an action exactly when the action's grant allows each resource that the entry's grant
allows. -/
theorem inclusion_is_coverage :
    (∀ g : Grant, g.includes g = true) ∧
    (∀ g h k : Grant, g.includes h = true → h.includes k = true → g.includes k = true) ∧
    (∀ g h : Grant, g.includes h = true → h.includes g = true → g = h) ∧
    (∀ g h : Grant, g.includes h = true →
      ∀ resource, h.allows resource = true → g.allows resource = true) ∧
    (∀ g h : Grant, defaultResource ∉ g.resources → defaultResource ∉ h.resources →
      (∀ resource, h.allows resource = true → g.allows resource = true) →
      g.includes h = true) ∧
    (∀ key (block : Block), (block.flatten key).countP FlatPermission.servesBoth ≤ 1) ∧
    ∀ sources key block, (key, block) ∈ (compile sources).blocks →
      (∀ a, defaultResource ∉ (block.grant a).resources) ∧
      ∀ e ∈ block.flatten key, ∀ a, e.serves a = true ↔
        ∀ resource, e.resources.allows resource = true → (block.grant a).allows resource = true := by
  refine ⟨Grant.includes_self, fun _ _ _ => Grant.includes_trans, fun _ _ => Grant.includes_antisymm,
    fun _ _ => Grant.covers_of_includes, fun _ _ => Grant.includes_of_covers,
    Block.countP_servesBoth_le_one, ?_⟩
  intro sources key block listed
  have unmarked := defaultResource_not_mem_compile listed
  refine ⟨unmarked, ?_⟩
  intro e member a
  exact Block.serves_iff_covers unmarked member a

end Index

/-- Reading reaches two resources and writing one of them, so that the entry made for writing serves
reading too, and the one made for reading does not serve writing. -/
theorem inclusion_is_coverage_localRole :
    (Grant.includes .all (.ofNames ["a"]) = true ∧
      Grant.includes (.ofNames ["a"]) .empty = true ∧ Grant.includes .all .empty = true) ∧
    (Grant.includes (.ofNames ["a", "b"]) (.ofNames ["b", "a"]) = true ∧
      Grant.includes (.ofNames ["b", "a"]) (.ofNames ["a", "b"]) = true ∧
      Grant.ofNames ["a", "b"] = .ofNames ["b", "a"]) ∧
    (Grant.includes .all .default = true ∧ Grant.default.allows defaultResource = true ∧
      Grant.all.allows defaultResource = true) ∧
    (⟨.local, "Doc"⟩, ⟨.ofNames ["a", "b"], .ofNames ["a"]⟩) ∈
      (Index.compile [localRole ["Doc.Read.a", "Doc.Read.b", "Doc.Write.a"]]).blocks ∧
    ((∀ resource, (Grant.ofNames ["a"]).allows resource = true →
        (Grant.ofNames ["a", "b"]).allows resource = true) ∧
      Grant.includes (.ofNames ["a", "b"]) (.ofNames ["a"]) = true) ∧
    ¬ ∀ resource, (Grant.ofNames ["a", "b"]).allows resource = true →
      (Grant.ofNames ["a"]).allows resource = true := by
  obtain ⟨-, trans, antisymm, sound, complete, -, compiled⟩ := Index.inclusion_is_coverage
  have first : Grant.includes .all (.ofNames ["a"]) = true := rfl
  have second : Grant.includes (.ofNames ["a"]) .empty = true := rfl
  have there : Grant.includes (.ofNames ["a", "b"]) (.ofNames ["b", "a"]) = true := by decide
  have back : Grant.includes (.ofNames ["b", "a"]) (.ofNames ["a", "b"]) = true := by decide
  have capability : Grant.includes .all .default = true := rfl
  have listed : (⟨.local, "Doc"⟩, ⟨.ofNames ["a", "b"], .ofNames ["a"]⟩) ∈
      (Index.compile [localRole ["Doc.Read.a", "Doc.Read.b", "Doc.Write.a"]]).blocks :=
    List.mem_singleton.mpr rfl
  obtain ⟨unmarked, flags⟩ := compiled _ _ _ listed
  have covers := (flags ⟨.local, "Doc", true, true, .ofNames ["a"]⟩ (by decide) .read).mp rfl
  refine ⟨⟨first, second, trans _ _ _ first second⟩, ⟨there, back, antisymm _ _ there back⟩,
    ⟨capability, rfl, sound _ _ capability defaultResource rfl⟩, listed, ⟨covers, ?_⟩, ?_⟩
  · exact complete _ _ (unmarked .read) (unmarked .write) covers
  · intro reversed
    have served :=
      (flags ⟨.local, "Doc", true, false, .ofNames ["a", "b"]⟩ (by decide) .write).mpr reversed
    cases served

/-- In a block put together by hand the default name may stand in a set. The default capability
allows that name, but does not include the set, and the entry of the set is not flagged for it. -/
example : Grant.default.allows defaultResource = true ∧
    (⟨.default, .ofNames [defaultResource]⟩ : Block).flatten ⟨.local, "Doc"⟩ =
      [⟨.local, "Doc", true, false, .default⟩,
        ⟨.local, "Doc", false, true, .ofNames [defaultResource]⟩] := by decide

end AccessControl

import ProblemMatcher.Proofs.Regex.Parallel

/-!
# The frame of the whole pattern

Below all open groups lies one frame for the pattern itself. Its modes are those given and those
that the pattern turned on for all of itself, and such modes are turned on only before anything has
been read. So once something has been read, they are the same up to the end of the pattern.

1. `Effect`, `effect_act`: what an action does to the open frames.
2. `IsGrounded`: the modes of the frame below; kept by every action.
3. `IsUnderway`: something has been read, and the modes stay; kept by every action.
-/

namespace ProblemMatcher.Regex

namespace Reader

/-! ## What an action does to the open frames -/

/-- The effect of an action on the open frames and the modes of the whole pattern. -/
inductive Effect (r r' : Reader) : Prop
  /-- The frame being read changes; its modes stay. -/
  | inside (given : r'.given = r.given) (inline : r'.inline = r.inline)
    (outer : r'.outer = r.outer) (kind : r.top.kind = .whole → r'.top.kind = .whole)
    (flags : r'.top.flags = r.top.flags)
    (fresh : r.top.kind = .whole → r.top.isFresh = false → r'.top.isFresh = false)
  | enter (given : r'.given = r.given) (inline : r'.inline = r.inline)
    (outer : r'.outer = r.top :: r.outer)
  | leave (given : r'.given = r.given) (inline : r'.inline = r.inline) (parent : Frame)
    (outer : r.outer = parent :: r'.outer) (kind : r'.top.kind = parent.kind)
    (flags : r'.top.flags = parent.flags) (fresh : r'.top.isFresh = false)
  | turnOn (given : r'.given = r.given) (on : Flags) (inline : r'.inline = r.inline.union on)
    (outer : r.outer = []) (outer' : r'.outer = []) (fresh : r.top.isFresh = true)
    (kind : r'.top.kind = r.top.kind) (flags : r'.top.flags = r.top.flags.union on)

theorem effect_push (r : Reader) (node : Node) (last : LastItem) : Effect r (r.push node last) :=
  .inside rfl rfl rfl id rfl fun _ _ => Bool.and_false _

variable {r r' : Reader}

theorem effect_text {c : Char} (h : r.act (.text c) = .ok r') : Effect r r' := by
  simp only [act_text] at h
  split_ifs at h with hblank hcomment
  · cases h
    exact .inside rfl rfl rfl id rfl fun _ => id
  · cases h
    exact .inside rfl rfl rfl id rfl fun _ => id
  · cases h
    exact effect_push r _ _

theorem effect_nextBranch (h : r.nextBranch = .ok r') : Effect r r' := by
  obtain rfl := eq_of_nextBranch h
  refine .inside rfl rfl rfl ?_ ?_ ?_
  · intro hkind
    simp [Frame.nextBranch, hkind]
  · exact Frame.nextBranch_flags r.top
  · intro hkind _
    simp [Frame.nextBranch, hkind, Frame.isFresh]

theorem effect_close (h : r.close = .ok r') : Effect r r' := by
  obtain ⟨parent, outer, back, houter, -, htop, houter', -, -, hgiven, hinline⟩ := eq_of_close h
  refine .leave hgiven hinline parent (by rw [houter, houter']) ?_ ?_ ?_
  · rw [htop]
    rfl
  · rw [htop]
    rfl
  · rw [htop]
    exact Bool.and_false _

theorem effect_repeatLast {least : Nat} {most : Option Nat}
    (h : r.repeatLast least most = .ok r') : Effect r r' := by
  obtain ⟨hitems, rfl⟩ := eq_of_repeatLast h
  refine .inside rfl rfl rfl ?_ ?_ ?_
  · intro hkind
    exact (Frame.repeated_kind r.top least most).trans hkind
  · exact Frame.repeated_flags r.top least most
  · exact fun _ _ => Frame.isFresh_of_items_ne_nil (Frame.repeated_items_ne_nil hitems)

theorem effect_setGreed {greed : Greed} (h : r.act (.greed greed) = .ok r') : Effect r r' := by
  simp only [act_greed] at h
  split_ifs at h
  · cases h
    exact .inside rfl rfl rfl id rfl fun _ => (Frame.withGreed_isFresh r.top greed).trans
  · cases h

/-- Each action has one of the four effects. -/
theorem effect_act {x : Action} (h : r.act x = .ok r') : Effect r r' := by
  cases x with
  | go mode free =>
    cases h
    exact .inside rfl rfl rfl id rfl fun _ => id
  | reject cause => cases h
  | literal code | set items negated | dot | place which =>
    cases h
    exact effect_push r _ _
  | text c => exact effect_text h
  | refer index =>
    obtain rfl := eq_of_refer h
    exact effect_push r _ _
  | referNamed name =>
    obtain ⟨index, rfl⟩ := eq_of_referNamed h
    exact effect_push r _ _
  | capture | plain | atomic | scope on off =>
    cases h
    exact .enter rfl rfl rfl
  | named name =>
    obtain ⟨names, rfl⟩ := eq_of_openNamed h
    exact .enter rfl rfl rfl
  | look behind negated =>
    cases h
    obtain ⟨lookbehindFrom, outermost, h⟩ := openLook_eq r behind negated
    rw [h]
    exact .enter rfl rfl rfl
  | condition name =>
    obtain ⟨index, furthest, rfl⟩ := eq_of_openCondition h
    exact .enter rfl rfl rfl
  | branch => exact effect_nextBranch h
  | close => exact effect_close h
  | loop least most => exact effect_repeatLast h
  | greed greed => exact effect_setGreed h
  | turnOn on =>
    obtain ⟨houter, hfresh, rfl⟩ := eq_of_turnOn h
    exact .turnOn rfl on rfl houter houter hfresh rfl rfl

/-! ## The frame below all others -/

def root (r : Reader) : Frame :=
  r.outer.getLast?.getD r.top

theorem root_of_outer_nil {r : Reader} (h : r.outer = []) : r.root = r.top := by
  rw [root, h]
  rfl

theorem root_of_outer_cons {r : Reader} {parent : Frame} {outer : List Frame}
    (h : r.outer = parent :: outer) : r.root = outer.getLast?.getD parent := by
  rw [root, h, List.getLast?_cons]
  rfl

/-- The modes of the frame below are those of the whole pattern. -/
structure IsGrounded (r : Reader) : Prop where
  kind : r.root.kind = .whole
  flags : r.root.flags = r.given.union r.inline

theorem isGrounded_start (given : Flags) : (start given).IsGrounded where
  kind := rfl
  flags := (Flags.union_plain given).symm

theorem IsGrounded.effect {r r' : Reader} (h : r.IsGrounded) (he : Effect r r') :
    r'.IsGrounded := by
  cases he with
  | inside given inline outer kind flags _ =>
    -- the frame being read is the one below only if no group is open
    rcases List.eq_nil_or_concat r.outer with hnil | ⟨inner, bottom, hcons⟩
    · have hroot := root_of_outer_nil hnil
      have hroot' := root_of_outer_nil (outer.trans hnil)
      refine ⟨?_, ?_⟩
      · rw [hroot', kind (hroot ▸ h.kind)]
      · rw [hroot', flags, ← hroot, h.flags, given, inline]
    · have hroot : r'.root = r.root := by
        rw [root, root, outer, hcons, List.concat_eq_append, List.getLast?_concat]
        rfl
      exact ⟨hroot ▸ h.kind, by rw [hroot, h.flags, given, inline]⟩
  | enter given inline outer =>
    have hroot : r'.root = r.root := root_of_outer_cons outer
    exact ⟨hroot ▸ h.kind, by rw [hroot, h.flags, given, inline]⟩
  | leave given inline parent outer kind flags _ =>
    have hroot := root_of_outer_cons outer
    have hsame : r'.root.kind = r.root.kind ∧ r'.root.flags = r.root.flags := by
      rw [hroot, root]
      cases r'.outer.getLast? with
      | none => exact ⟨kind, flags⟩
      | some bottom => exact ⟨rfl, rfl⟩
    exact ⟨by rw [hsame.1, h.kind], by rw [hsame.2, h.flags, given, inline]⟩
  | turnOn given on inline outer outer' _ kind flags =>
    have hroot := root_of_outer_nil outer
    have hroot' := root_of_outer_nil outer'
    refine ⟨?_, ?_⟩
    · rw [hroot', kind, ← hroot, h.kind]
    · rw [hroot', flags, ← hroot, h.flags, given, inline, Flags.union_assoc]

/-! ## Once something has been read -/

/-- Something has been read. -/
def IsUnderway (r : Reader) : Prop :=
  r.outer ≠ [] ∨ r.top.isFresh = false

theorem IsUnderway.effect {r r' : Reader} (h : r.IsUnderway) (hg : r.IsGrounded)
    (he : Effect r r') : r'.IsUnderway ∧ r'.inline = r.inline := by
  cases he with
  | inside _ inline outer _ _ fresh =>
    refine ⟨?_, inline⟩
    by_cases hnil : r.outer = []
    · have hkind : r.top.kind = .whole := by rw [← root_of_outer_nil hnil, hg.kind]
      exact Or.inr (fresh hkind (h.resolve_left (not_not.mpr hnil)))
    · exact Or.inl (by rwa [outer])
  | enter _ inline outer => exact ⟨Or.inl (by rw [outer]; exact List.cons_ne_nil _ _), inline⟩
  | leave _ inline _ _ _ _ fresh => exact ⟨Or.inr fresh, inline⟩
  -- impossible once something has been read
  | turnOn _ _ _ outer _ fresh _ _ =>
    rcases h with h | h
    · exact absurd outer h
    · rw [fresh] at h
      cases h

theorem Effect.given_eq {r r' : Reader} (h : Effect r r') : r'.given = r.given := by
  cases h with
  | inside given | enter given | leave given | turnOn given => exact given

/-- A reader that has begun: its frame below, and the modes it keeps from now on. -/
structure Keeps (given inline : Flags) (r : Reader) : Prop where
  isGrounded : r.IsGrounded
  isUnderway : r.IsUnderway
  given_eq : r.given = given
  inline_eq : r.inline = inline

theorem Keeps.act {given inline : Flags} (r : Reader) (x : Action) (r' : Reader)
    (h : r.Keeps given inline) (hx : r.act x = .ok r') : r'.Keeps given inline := by
  have he := effect_act hx
  obtain ⟨hunderway, hinline⟩ := h.isUnderway.effect h.isGrounded he
  exact ⟨h.isGrounded.effect he, hunderway, he.given_eq.trans h.given_eq,
    hinline.trans h.inline_eq⟩

theorem IsGrounded.read {r r' : Reader} {tokens : List Token} (h : r.IsGrounded)
    (hr : r.read tokens = .ok r') : r'.IsGrounded :=
  read_induction (fun _ _ _ h hx => h.effect (effect_act hx)) h hr

theorem IsGrounded.settle {r r' : Reader} (h : r.IsGrounded) (hr : r.settle = .ok r') :
    r'.IsGrounded :=
  settle_induction (fun _ _ _ h hx => h.effect (effect_act hx)) h hr

theorem given_act {given : Flags} (r : Reader) (x : Action) (r' : Reader) (h : r.given = given)
    (hx : r.act x = .ok r') : r'.given = given :=
  (effect_act hx).given_eq.trans h

end Reader

end ProblemMatcher.Regex

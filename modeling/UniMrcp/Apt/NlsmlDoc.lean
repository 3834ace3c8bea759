import Mathlib.Data.List.Chain
import Mathlib.Logic.Function.Basic
import UniMrcp.Apt.TextStream

/-!
# Instances of NLSML documents

`nlsml_instance_swi_suppress` unlinks elements from a list while it goes along it (`apt_nlsml_doc.c`).
-/

namespace UniMrcp.Apt

open List Function

/-- The pointers lead from `p` along the elements of a list to `q`. -/
def Leads (next : Nat → Option Nat) : Option Nat → List Nat → Option Nat → Prop
  | p, [], q => p = q
  | p, a :: l, q => p = some a ∧ Leads next (next a) l q

def Chained (next : Nat → Option Nat) (first : Option Nat) (l : List Nat) : Prop := Leads next first l none

variable {next : Nat → Option Nat} {p q : Option Nat} {l m : List Nat}

theorem leads_append : Leads next p (l ++ m) q ↔ ∃ r, Leads next p l r ∧ Leads next r m q := by
  induction l generalizing p with
  | nil => simp [Leads]
  | cons a l ih => simp [Leads, ih, and_assoc]

theorem Leads.update {a : Nat} (ha : a ∉ l) (x : Option Nat) (h : Leads next p l q) :
    Leads (update next a x) p l q := by
  induction l generalizing p with
  | nil => exact h
  | cons b l ih =>
    refine ⟨h.1, ?_⟩
    rw [update_of_ne (ne_of_not_mem_cons ha).symm]
    exact ih (not_mem_of_not_mem_cons ha) h.2

theorem Chained.unique (h : Chained next p l) (h' : Chained next p m) : l = m := by
  induction l generalizing p m with
  | nil =>
    cases m with
    | nil => rfl
    | cons b m => exact absurd (h.symm.trans h'.1) nofun
  | cons a l ih =>
    cases m with
    | nil => exact absurd (h'.symm.trans h.1) nofun
    | cons b m =>
      obtain rfl : a = b := Option.some.inj (h.1.symm.trans h'.1)
      rw [ih h.2 h'.2]

theorem Chained.nodup (h : Chained next p l) : l.Nodup := by
  induction l generalizing p with
  | nil => exact nodup_nil
  | cons a l ih =>
    refine nodup_cons.2 ⟨fun hm => ?_, ih h.2⟩
    obtain ⟨l', m, rfl⟩ := append_of_mem hm
    obtain ⟨r, -, hr⟩ := leads_append.1 h.2
    have hb : Chained next (some a) (a :: m) := ⟨rfl, hr.2⟩
    have ha : Chained next (some a) (a :: (l' ++ a :: m)) := ⟨rfl, h.2⟩
    have hl := congrArg length (hb.unique ha)
    simp only [length_cons, length_append] at hl
    omega

/-! ## Instances -/

structure XmlElem where
  name : Bytes
  firstCdata : List Bytes := []

/-- `strcasecmp` -/
def namesEqual (name1 name2 : Bytes) : Bool := name1.map toLower == name2.map toLower

/-- The elements in memory. Of a child only the pointer to the next one is written. -/
abbrev Elems := Nat → XmlElem

def Elems.isSwiLiteral (elems : Elems) (child : Nat) : Bool := namesEqual (elems child).name (ascii "SWI_literal")

def Elems.isSwi (elems : Elems) (child : Nat) : Bool :=
  elems.isSwiLiteral child || namesEqual (elems child).name (ascii "SWI_meaning")

/-- `nlsml_instance_t`: its element, with the pointers of the children. -/
structure Instance where
  firstChild : Option Nat
  next : Nat → Option Nat
  firstCdata : List Bytes

structure Walk where
  firstChild : Option Nat
  next : Nat → Option Nat
  prevElem : Option Nat := none
  swiLiteral : Option Nat := none

def Walk.unlink (w : Walk) (child : Nat) : Walk :=
  if w.firstChild = some child then { w with firstChild := w.next child }
  else w.prevElem.elim w fun prev => { w with next := update w.next prev (w.next child) }

variable (elems : Elems)

def Walk.visit (w : Walk) (child : Nat) : Walk :=
  { (if elems.isSwi child then w.unlink child else w) with
    prevElem := some child
    swiLiteral := if elems.isSwiLiteral child then some child else w.swiLiteral }

def Walk.loop : Nat → Walk → Option Nat → Walk
  | fuel + 1, w, some child => (w.visit elems child).loop fuel ((w.visit elems child).next child)
  | _, w, _ => w

/-- `nlsml_instance_swi_suppress`, of an instance that has an element. -/
def swiSuppress (fuel : Nat) (inst : Instance) : Instance :=
  let w := Walk.loop elems fuel ⟨inst.firstChild, inst.next, none, none⟩ inst.firstChild
  ⟨w.firstChild, w.next, if w.firstChild = none ∧ inst.firstCdata = [] then
      w.swiLiteral.elim inst.firstCdata fun literal => (elems literal).firstCdata
    else inst.firstCdata⟩

/-- Behind an element that is linked an SWI element is removed, and behind one that was removed any element stays. -/
def keptBehind : Bool → List Nat → List Nat
  | _, [] => []
  | linked, child :: rest =>
    if linked && elems.isSwi child then keptBehind false rest else child :: keptBehind true rest

variable {elems}

theorem filter_keptBehind (linked : Bool) (l : List Nat) :
    (keptBehind elems linked l).filter (!elems.isSwi ·) = l.filter (!elems.isSwi ·) := by
  induction l generalizing linked with
  | nil => rfl
  | cons child rest ih =>
    unfold keptBehind
    split_ifs with h
    · rw [Bool.and_eq_true] at h
      rw [ih, filter_cons_of_neg (by simp [h.2])]
    · rw [filter_cons, filter_cons, ih]

theorem filter_dropWhile_swi (l : List Nat) :
    (l.dropWhile elems.isSwi).filter (!elems.isSwi ·) = l.filter (!elems.isSwi ·) := by
  induction l with
  | nil => rfl
  | cons child rest ih =>
    cases hs : elems.isSwi child with
    | true => rw [dropWhile_cons_of_pos hs, ih, filter_cons_of_neg (by simp [hs])]
    | false => rw [dropWhile_cons_of_neg (by simp [hs])]

theorem keptBehind_iff (linked : Bool) (l : List Nat) :
    (∀ child ∈ keptBehind elems linked l, elems.isSwi child = false) ↔
      (linked = false → ∀ child ∈ l.head?, elems.isSwi child = false) ∧
        l.IsChain fun a b => (elems.isSwi a && elems.isSwi b) = false := by
  induction l generalizing linked with
  | nil => simp [keptBehind]
  | cons child rest ih =>
    unfold keptBehind
    cases hs : elems.isSwi child with
    | true =>
      cases linked with
      | true => simp [ih, isChain_cons, hs]
      | false => simp [hs]
    | false => simp [ih, isChain_cons, hs]

/-! ## The walk -/

variable {w : Walk} {child last : Nat} {rest front : List Nat} {linked : Bool}

open Walk

theorem visit_of_other (h : elems.isSwi child = false) :
    (w.visit elems child).firstChild = w.firstChild ∧ (w.visit elems child).next = w.next := by
  simp [visit, h]

theorem visit_first (hs : elems.isSwi child) (h : w.firstChild = some child) :
    (w.visit elems child).firstChild = w.next child ∧ (w.visit elems child).next = w.next := by
  simp [visit, unlink, hs, h]

theorem visit_behind {prev : Nat} (hs : elems.isSwi child) (h : w.firstChild ≠ some child)
    (hp : w.prevElem = some prev) : (w.visit elems child).firstChild = w.firstChild ∧
      (w.visit elems child).next = update w.next prev (w.next child) := by
  simp [visit, unlink, hs, h, hp]

theorem visit_next (hp : ∀ prev ∈ w.prevElem, prev ∉ l) (h : Leads w.next p l q) :
    Leads (w.visit elems child).next p l q := by
  show Leads (if elems.isSwi child then w.unlink child else w).next p l q
  unfold unlink
  split_ifs
  · exact h
  · cases hr : w.prevElem with
    | none => exact h
    | some prev => exact h.update (hp prev hr) _
  · exact h

theorem loop_eq (fuel : Nat) (hfuel : l.length ≤ fuel) (h : Chained w.next p l)
    (hp : ∀ prev ∈ w.prevElem, prev ∉ l) : loop elems fuel w p = l.foldl (visit elems) w := by
  induction l generalizing w p fuel with
  | nil =>
    obtain rfl : p = none := h
    cases fuel <;> rfl
  | cons child l ih =>
    obtain ⟨fuel, rfl⟩ := Nat.exists_eq_succ_of_ne_zero (Nat.ne_of_gt (Nat.lt_of_lt_of_le (Nat.succ_pos _) hfuel))
    obtain rfl := h.1
    refine ih fuel (Nat.le_of_succ_le_succ hfuel) (visit_next hp h).2 ?_
    intro prev hr
    obtain rfl : child = prev := Option.some.inj hr
    exact (nodup_cons.1 h.nodup).1

theorem Chained.first_ne (h : Chained next p (front ++ last :: child :: rest)) : p ≠ some child := by
  intro heq
  have hn := h.nodup
  cases front with
  | nil =>
    obtain rfl : child = last := Option.some.inj (heq.symm.trans h.1)
    exact (nodup_cons.1 hn).1 mem_cons_self
  | cons a front =>
    obtain rfl : child = a := Option.some.inj (heq.symm.trans h.1)
    exact (nodup_cons.1 hn).1 (by simp)

/-- The walk is behind `last`, and the element that it visited last is linked or not. -/
structure Behind (w : Walk) (front : List Nat) (last : Nat) (rest : List Nat) (linked : Bool) : Prop where
  chain : Chained w.next w.firstChild (front ++ last :: rest)
  prev : ∃ prev, w.prevElem = some prev ∧ (linked → prev = last) ∧
    (linked = false → prev ∉ front ++ last :: rest)

theorem Behind.stay (h : Behind w front last (child :: rest) linked) (hs : (linked && elems.isSwi child) = false) :
    Behind (w.visit elems child) (front ++ [last]) child rest true := by
  refine ⟨?_, child, rfl, fun _ => rfl, nofun⟩
  rw [append_assoc]
  cases hw : elems.isSwi child with
  | false =>
    rw [(visit_of_other hw).1, (visit_of_other hw).2]
    exact h.chain
  | true =>
    -- the pointer that is written belongs to an element that was removed before
    obtain ⟨prev, hp, -, ho⟩ := h.prev
    obtain ⟨hf, hn⟩ := visit_behind hw h.chain.first_ne hp
    rw [hf, hn]
    exact Leads.update (ho (by simpa [hw] using hs)) _ h.chain

theorem Behind.remove (h : Behind w front last (child :: rest) true) (hs : elems.isSwi child) :
    Behind (w.visit elems child) front last rest false := by
  obtain ⟨prev, hp, hl, -⟩ := h.prev
  obtain rfl := hl rfl
  obtain ⟨hfr, hx⟩ := visit_behind hs h.chain.first_ne hp
  have hn := h.chain.nodup
  simp only [nodup_append, nodup_cons, mem_cons, not_or] at hn
  obtain ⟨-, ⟨⟨hne, ht⟩, hc, -⟩, hf⟩ := hn
  obtain ⟨r, hb, hr, -, ha⟩ := leads_append.1 h.chain
  refine ⟨?_, child, rfl, nofun, fun _ hm => ?_⟩
  · rw [hfr, hx]
    refine leads_append.2 ⟨r, hb.update (fun hm => hf prev hm prev (Or.inl rfl) rfl) _, hr, ?_⟩
    rw [update_self]
    exact ha.update ht _
  · rcases mem_append.1 hm with hm | hm
    · exact hf child hm child (Or.inr (Or.inl rfl)) rfl
    · exact (mem_cons.1 hm).elim (fun heq => hne heq.symm) hc

theorem Behind.foldl (h : Behind w front last rest linked) :
    Chained (rest.foldl (visit elems) w).next (rest.foldl (visit elems) w).firstChild
      (front ++ last :: keptBehind elems linked rest) := by
  induction rest generalizing w front last linked with
  | nil => exact h.chain
  | cons child rest ih =>
    rw [foldl_cons, keptBehind]
    split_ifs with hs
    · rw [Bool.and_eq_true] at hs
      obtain ⟨rfl, hs⟩ := hs
      exact ih (h.remove hs)
    · have hk := ih (h.stay (Bool.not_eq_true _ ▸ hs))
      rwa [append_assoc] at hk

theorem foldl_linked (h : Chained w.next w.firstChild l) :
    Chained (l.foldl (visit elems) w).next (l.foldl (visit elems) w).firstChild
      (keptBehind elems false (l.dropWhile elems.isSwi)) := by
  induction l generalizing w with
  | nil => exact h
  | cons child l ih =>
    rw [foldl_cons, dropWhile_cons]
    split_ifs with hs
    · refine ih ?_
      rw [(visit_first hs h.1).1, (visit_first hs h.1).2]
      exact h.2
    · have ho : elems.isSwi child = false := Bool.not_eq_true _ ▸ hs
      refine Behind.foldl (?_ : Behind (visit elems _ child) [] child _ true)
      refine ⟨?_, child, rfl, fun _ => rfl, nofun⟩
      rw [(visit_of_other ho).1, (visit_of_other ho).2]
      exact h

theorem foldl_literal (l : List Nat) (w : Walk) : (l.foldl (visit elems) w).swiLiteral =
    (l.filter elems.isSwiLiteral).getLast?.or w.swiLiteral := by
  induction l generalizing w with
  | nil => rfl
  | cons child l ih =>
    rw [foldl_cons, ih, filter_cons]
    show _ = Option.or _ _
    unfold visit
    dsimp only
    split_ifs
    · rw [getLast?_cons]
      cases (l.filter elems.isSwiLiteral).getLast? <;> rfl
    · rfl

/-! ## The result -/

section Result

variable {inst : Instance} {fuel : Nat} {children : List Nat} (h : Chained inst.next inst.firstChild children)
  (hfuel : children.length ≤ fuel)
include h hfuel

theorem loop_start : loop elems fuel ⟨inst.firstChild, inst.next, none, none⟩ inst.firstChild =
    children.foldl (visit elems) ⟨inst.firstChild, inst.next, none, none⟩ :=
  loop_eq fuel hfuel h fun prev hp => absurd hp (Option.not_mem_none prev)

theorem swiSuppress_children :
    Chained (swiSuppress elems fuel inst).next (swiSuppress elems fuel inst).firstChild
      (keptBehind elems false (children.dropWhile elems.isSwi)) := by
  unfold swiSuppress
  rw [loop_start h hfuel]
  exact foldl_linked h

theorem swiSuppress_text : (swiSuppress elems fuel inst).firstCdata =
    if (swiSuppress elems fuel inst).firstChild = none ∧ inst.firstCdata = [] then
      (children.filter elems.isSwiLiteral).getLast?.elim inst.firstCdata fun literal => (elems literal).firstCdata
    else inst.firstCdata := by
  unfold swiSuppress
  rw [loop_start h hfuel]
  dsimp only
  rw [foldl_literal, Option.or_none]

theorem swiSuppress_of_other (ho : ∀ child ∈ children, elems.isSwi child = false) :
    swiSuppress elems fuel inst = inst := by
  have hw : ∀ (l : List Nat) (w : Walk), (∀ child ∈ l, elems.isSwi child = false) →
      (l.foldl (visit elems) w).firstChild = w.firstChild ∧ (l.foldl (visit elems) w).next = w.next := by
    intro l
    induction l with
    | nil => exact fun _ _ => ⟨rfl, rfl⟩
    | cons child l ih =>
      intro w hl
      have hv := visit_of_other (w := w) (hl child mem_cons_self)
      have hr := ih (w.visit elems child) fun other hm => hl other (mem_cons_of_mem _ hm)
      exact ⟨hr.1.trans hv.1, hr.2.trans hv.2⟩
  have ht : children.filter elems.isSwiLiteral = [] := by
    refine filter_eq_nil_iff.2 fun child hm hl => ?_
    have hs := ho child hm
    simp [Elems.isSwi, hl] at hs
  have hp := hw children ⟨inst.firstChild, inst.next, none, none⟩ ho
  unfold swiSuppress
  rw [loop_start h hfuel]
  dsimp only
  rw [foldl_literal, ht, hp.1, hp.2]
  simp

end Result

/-- What normalisation is for: the children that are not SWI elements, in order, or the text of an SWI_literal; nothing
changes the second time. -/
structure Suppressed (elems : Elems) (fuel : Nat) (inst : Instance) (children : List Nat) (result : Instance) : Prop where
  kept : Chained result.next result.firstChild (children.filter (!elems.isSwi ·))
  text : result.firstCdata =
    if children.filter (!elems.isSwi ·) = [] ∧ inst.firstCdata = [] then
      (children.filter elems.isSwiLiteral).getLast?.elim inst.firstCdata fun literal => (elems literal).firstCdata
    else inst.firstCdata
  again : swiSuppress elems fuel result = result

def exampleElems (names : List String) : Elems := fun child => ⟨ascii (names.getD child ""), []⟩

def exampleInstance : Instance := ⟨some 0, fun child => [some 1, some 2].getD child none, []⟩

end UniMrcp.Apt

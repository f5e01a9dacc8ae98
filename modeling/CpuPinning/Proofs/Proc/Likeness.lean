import Mathlib.Data.List.Forall2
import CpuPinning.Proc.FileTree

/-!
# File trees of one shape

Two file trees have one shape if they have the same links, directories with related
listings, and files with related bytes.  A path leads to the same place in both, or
nowhere for the same reason, so that whatever is read of them is related in the same
way.
-/

namespace CpuPinning.Proc

/-- Two answers: the same fault, or results that are related. -/
inductive Agree {ε α β : Type} (R : α → β → Prop) : Except ε α → Except ε β → Prop
  | ok {a : α} {b : β} : R a b → Agree R (.ok a) (.ok b)
  | error (e : ε) : Agree R (.error e) (.error e)

theorem Agree.map {ε α β α' β' : Type} {R : α → β → Prop} {S : α' → β' → Prop}
    {x : Except ε α} {y : Except ε β} {f : α → α'} {g : β → β'} (h : Agree R x y)
    (hfg : ∀ a b, R a b → S (f a) (g b)) : Agree S (x.map f) (y.map g) := by
  cases h with
  | ok hab => exact .ok (hfg _ _ hab)
  | error e => exact .error e

theorem Agree.imp {ε α β : Type} {R S : α → β → Prop} {x : Except ε α} {y : Except ε β}
    (h : Agree R x y) (himp : ∀ a b, R a b → S a b) : Agree S x y := by
  cases h with
  | ok hab => exact .ok (himp _ _ hab)
  | error e => exact .error e

theorem Agree.eq {ε α : Type} {x y : Except ε α} (h : Agree (· = ·) x y) : x = y := by
  cases h with
  | ok hab => rw [hab]
  | error e => rfl

/-- Two nodes of one shape, both with the name `name`.  Of directories the names that
they list are related, and of files the bytes. -/
inductive Node.Alike (listing : List String → List String → Prop)
    (content : String → List UInt8 → List UInt8 → Prop) : String → Node → Node → Prop
  | file {name : String} {bytes bytes' : List UInt8} :
      content name bytes bytes' → Alike listing content name (.file bytes) (.file bytes')
  | link {name : String} (target : String) :
      Alike listing content name (.link target) (.link target)
  | dir {name : String} {es es' : List (String × Node)} :
      listing (es.map (·.1)) (es'.map (·.1)) →
      (∀ key node node', member? key es = some node → member? key es' = some node' →
        Alike listing content key node node') →
      Alike listing content name (.dir es) (.dir es')

variable {listing : List String → List String → Prop}
  {content : String → List UInt8 → List UInt8 → Prop}

/-- Two nodes of one shape, whatever their names. -/
def Node.Like (listing : List String → List String → Prop)
    (content : String → List UInt8 → List UInt8 → Prop) (node node' : Node) : Prop :=
  ∃ name, node.Alike listing content name node'

/-- Two places that the same path leads to. -/
structure Position.Like (listing : List String → List String → Prop)
    (content : String → List UInt8 → List UInt8 → Prop) (p p' : Position) : Prop where
  node : p.node.Like listing content p'.node
  above : List.Forall₂ (Node.Like listing content) p.above p'.above

theorem member?_eq_none_iff {α : Type} {key : String} {ms : List (String × α)} :
    member? key ms = none ↔ key ∉ ms.map (·.1) := by
  induction ms with
  | nil => simp [member?]
  | cons m ms ih =>
      rw [member?]
      split
      · next hkey => simp [hkey]
      · next hkey => simp [ih, Ne.symm hkey]

/-- Directories are of one shape if their entries are, one by one. -/
theorem Node.Alike.of_entries {name : String} {es es' : List (String × Node)}
    (hlisting : listing (es.map (·.1)) (es'.map (·.1)))
    (h : List.Forall₂ (fun e e' => e.1 = e'.1 ∧ Node.Alike listing content e.1 e.2 e'.2) es
      es') : Node.Alike listing content name (.dir es) (.dir es') := by
  refine .dir hlisting fun key node node' hnode hnode' => ?_
  clear hlisting
  induction h with
  | nil => cases hnode
  | @cons e e' es es' hentry _ ih =>
      obtain ⟨hname, halike⟩ := hentry
      rw [member?] at hnode hnode'
      by_cases hkey : e.1 = key
      · rw [if_pos hkey] at hnode
        rw [if_pos (hname ▸ hkey)] at hnode'
        obtain rfl := Option.some.inj hnode
        obtain rfl := Option.some.inj hnode'
        exact hkey ▸ halike
      · rw [if_neg hkey] at hnode
        rw [if_neg (hname ▸ hkey)] at hnode'
        exact ih hnode hnode'

/-- A listing relation under which two directories have the same names, in whatever
order. -/
def SameNames (listing : List String → List String → Prop) : Prop :=
  ∀ names names', listing names names' → ∀ name, name ∈ names ↔ name ∈ names'

namespace Node

variable {node' : Node} {es es' : List (String × Node)}

/-- Whatever stands under a name stands under it in both directories. -/
theorem exists_dir_of_like (hsame : SameNames listing)
    (h : (dir es).Like listing content node') :
    ∃ es', node' = dir es' ∧ listing (es.map (·.1)) (es'.map (·.1)) ∧
      ∀ key, Option.Rel (Node.Like listing content) (member? key es) (member? key es') := by
  obtain ⟨name, h⟩ := h
  cases h with
  | @dir _ _ es' hnames hmembers =>
      refine ⟨es', rfl, hnames, fun key => ?_⟩
      cases hnode : member? key es with
      | none =>
          have hnone : member? key es' = none := by
            rw [member?_eq_none_iff, ← hsame _ _ hnames, ← member?_eq_none_iff]
            exact hnode
          rw [hnone]
          exact .none
      | some node =>
          cases hnode' : member? key es' with
          | none =>
              rw [member?_eq_none_iff, ← hsame _ _ hnames, ← member?_eq_none_iff, hnode]
                at hnode'
              cases hnode'
          | some node' => exact .some ⟨key, hmembers key node node' hnode hnode'⟩

theorem exists_file_of_like {bytes : List UInt8}
    (h : (file bytes).Like listing content node') :
    ∃ bytes', node' = file bytes' ∧ ∃ name, content name bytes bytes' := by
  obtain ⟨name, h⟩ := h
  cases h with
  | @file _ _ bytes' hbytes => exact ⟨bytes', rfl, name, hbytes⟩

theorem eq_link_of_like {target : String} (h : (link target).Like listing content node') :
    node' = link target := by
  obtain ⟨name, h⟩ := h
  cases h with
  | link => rfl

end Node

namespace Position

variable {p p' : Position}

theorem Like.up (h : p.Like listing content p') : p.up.Like listing content p'.up := by
  obtain ⟨above, node⟩ := p
  obtain ⟨above', node'⟩ := p'
  obtain ⟨hnode, habove⟩ := h
  cases habove with
  | nil => exact ⟨hnode, .nil⟩
  | cons hparent hrest => exact ⟨hparent, hrest⟩

theorem Like.top (h : p.Like listing content p') : p.top.Like listing content p'.top := by
  obtain ⟨above, node⟩ := p
  obtain ⟨above', node'⟩ := p'
  obtain ⟨hnode, habove⟩ := h
  refine ⟨?_, .nil⟩
  change (above.getLastD node).Like listing content (above'.getLastD node')
  dsimp only at hnode habove
  induction habove generalizing node node' with
  | nil => exact hnode
  | cons hparent hrest ih =>
      rw [List.getLastD_cons, List.getLastD_cons]
      exact ih _ _ hparent

/-- Up to the first link that a path passes, the walks in both trees stay alike, and
from there on if those that follow do. -/
theorem walkToLink_like (hsame : SameNames listing) (last : Bool)
    {follow : Position → List String → Except IoFailure Position}
    (hfollow : ∀ {p p' : Position} (parts : List String), p.Like listing content p' →
      Agree (Position.Like listing content) (follow p parts) (follow p' parts))
    (parts : List String) (h : p.Like listing content p') :
    Agree (Position.Like listing content) (walkToLink last follow p parts)
      (walkToLink last follow p' parts) := by
  induction parts generalizing p p' with
  | nil => exact .ok h
  | cons part rest ih =>
      have hhere := h.node
      rw [walkToLink, walkToLink]
      cases hkind : p.node with
      | file bytes =>
          rw [hkind] at hhere
          obtain ⟨bytes', hkind', -⟩ := Node.exists_file_of_like hhere
          rw [hkind']
          exact .error _
      | link target =>
          rw [hkind] at hhere
          rw [Node.eq_link_of_like hhere]
          exact .error _
      | dir es =>
          rw [hkind] at hhere
          obtain ⟨es', hkind', -, hmembers⟩ := Node.exists_dir_of_like hsame hhere
          rw [hkind'] at hhere ⊢
          dsimp only
          by_cases hstay : (part = "" || part = ".") = true
          · rw [if_pos hstay, if_pos hstay]
            exact ih h
          by_cases hup : part = ".."
          · rw [if_neg hstay, if_neg hstay, if_pos hup, if_pos hup]
            exact ih h.up
          by_cases hlong : nameSizeLimit < part.utf8ByteSize
          · rw [if_neg hstay, if_neg hstay, if_neg hup, if_neg hup, if_pos hlong, if_pos hlong]
            exact .error _
          rw [if_neg hstay, if_neg hstay, if_neg hup, if_neg hup, if_neg hlong, if_neg hlong]
          have hmember := hmembers part
          generalize member? part es = found at hmember ⊢
          generalize member? part es' = found' at hmember ⊢
          cases hmember with
          | none => exact .error _
          | @some node node' hnode =>
              have henter : Position.Like listing content ⟨.dir es :: p.above, node⟩
                  ⟨.dir es' :: p'.above, node'⟩ := ⟨hnode, .cons hhere h.above⟩
              cases node with
              | file bytes =>
                  obtain ⟨bytes', rfl, -⟩ := Node.exists_file_of_like hnode
                  exact ih henter
              | dir inner =>
                  obtain ⟨inner', rfl, -, -⟩ := Node.exists_dir_of_like hsame hnode
                  exact ih henter
              | link target =>
                  obtain rfl := Node.eq_link_of_like hnode
                  dsimp only
                  by_cases hlast : (last && rest.isEmpty) = true
                  · rw [if_pos hlast, if_pos hlast]
                    exact .ok henter
                  rw [if_neg hlast, if_neg hlast]
                  by_cases habsolute : target.startsWith "/" = true
                  · rw [if_pos habsolute, if_pos habsolute]
                    exact hfollow _ h.top
                  · rw [if_neg habsolute, if_neg habsolute]
                    exact hfollow _ h

/-- A path leads to the same place in both trees, or nowhere for the same reason. -/
theorem walk_like (hsame : SameNames listing) (last : Bool) (links : Nat)
    (parts : List String) (h : p.Like listing content p') :
    Agree (Position.Like listing content) (walk last links p parts)
      (walk last links p' parts) := by
  induction links generalizing p p' parts with
  | zero => exact walkToLink_like hsame last (fun _ _ => .error _) parts h
  | succ links ih => exact walkToLink_like hsame last ih parts h

end Position

/-- Two trees of one shape, where paths start from the same directory. -/
structure FileTree.Like (listing : List String → List String → Prop)
    (content : String → List UInt8 → List UInt8 → Prop) (t t' : FileTree) : Prop where
  here : t.here = t'.here
  root : t.root.Alike listing content "" t'.root

namespace FileTree

variable {t t' : FileTree} (hsame : SameNames listing) (h : t.Like listing content t')
  (path : String)

include hsame h

theorem find_like (last : Bool) :
    Agree (Node.Like listing content) (t.find last path) (t'.find last path) := by
  unfold find
  rw [h.here]
  by_cases hnull : '\x00' ∈ path.toList
  · rw [if_pos hnull, if_pos hnull]
    exact .error _
  by_cases hempty : path.isEmpty = true
  · rw [if_neg hnull, if_neg hnull, if_pos hempty, if_pos hempty]
    exact .error _
  by_cases hlong : pathSizeLimit < path.utf8ByteSize
  · rw [if_neg hnull, if_neg hnull, if_neg hempty, if_neg hempty, if_pos hlong, if_pos hlong]
    exact .error _
  rw [if_neg hnull, if_neg hnull, if_neg hempty, if_neg hempty, if_neg hlong, if_neg hlong]
  have hroot : Position.Like listing content ⟨[], t.root⟩ ⟨[], t'.root⟩ :=
    ⟨⟨"", h.root⟩, .nil⟩
  exact (Position.walk_like hsame last linkLimit _ hroot).map fun _ _ hplace => hplace.node

theorem exists?_like : t.exists? path = t'.exists? path := by
  have hfind := find_like hsame h path false
  unfold exists?
  generalize t.find false path = x at hfind ⊢
  generalize t'.find false path = x' at hfind ⊢
  cases hfind with
  | ok => rfl
  | error => rfl

theorem readBytes_like :
    Agree (fun bytes bytes' => ∃ name, content name bytes bytes') (t.readBytes path)
      (t'.readBytes path) := by
  have hfind := find_like hsame h path false
  unfold readBytes
  generalize t.find false path = x at hfind ⊢
  generalize t'.find false path = x' at hfind ⊢
  cases hfind with
  | error e => exact .error e
  | @ok node node' hnode =>
      cases node with
      | file bytes =>
          obtain ⟨bytes', rfl, hbytes⟩ := Node.exists_file_of_like hnode
          exact .ok hbytes
      | link target =>
          obtain rfl := Node.eq_link_of_like hnode
          exact .error _
      | dir es =>
          obtain ⟨es', rfl, -, -⟩ := Node.exists_dir_of_like hsame hnode
          exact .error _

theorem readLink_like : t.readLink path = t'.readLink path := by
  have hfind := find_like hsame h path true
  unfold readLink
  generalize t.find true path = x at hfind ⊢
  generalize t'.find true path = x' at hfind ⊢
  cases hfind with
  | error e => rfl
  | @ok node node' hnode =>
      cases node with
      | file bytes =>
          obtain ⟨bytes', rfl, -⟩ := Node.exists_file_of_like hnode
          rfl
      | link target =>
          obtain rfl := Node.eq_link_of_like hnode
          rfl
      | dir es =>
          obtain ⟨es', rfl, -, -⟩ := Node.exists_dir_of_like hsame hnode
          rfl

theorem list_like : Agree listing (t.list path) (t'.list path) := by
  have hfind := find_like hsame h path false
  unfold list
  generalize t.find false path = x at hfind ⊢
  generalize t'.find false path = x' at hfind ⊢
  cases hfind with
  | error e => exact .error e
  | @ok node node' hnode =>
      cases node with
      | file bytes =>
          obtain ⟨bytes', rfl, -⟩ := Node.exists_file_of_like hnode
          exact .error _
      | link target =>
          obtain rfl := Node.eq_link_of_like hnode
          exact .error _
      | dir es =>
          obtain ⟨es', rfl, hnames, -⟩ := Node.exists_dir_of_like hsame hnode
          exact .ok hnames

end FileTree

end CpuPinning.Proc

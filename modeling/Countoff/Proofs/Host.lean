import Countoff.Host
import Countoff.Proofs.Lockstep

/-!
# Sessions apart from the log

Two sessions are alike (`Session.Alike`) if they differ at most in what the log was told: the tree,
what was printed and the notices are the same. Two programs agree (`Session.Agree`) if, from
sessions that are alike, they give the same answer and come to sessions that are alike. What a host
in memory does agrees with itself, except that a remark to the log agrees with doing nothing
(`agree_pure_of_log`); so a program agrees with what is left of it without its log, one step after
the other (`Agree.bind`), and programs that agree have the same outcome (`Agree.outcome_eq`).

Other relations between sessions are kept by the host just so, but for the log (`Kept`): whatever is
made of steps of the host alone keeps step with itself under them.
-/

namespace Countoff

/-- What a remark tells the person at the terminal. -/
def Remark.notice? : Remark → Option String
  | .log _ => none
  | .notice text => some text

namespace Session

/-- What the person at the terminal was told, in order. -/
def notices (session : Session) : List String :=
  session.remarks.filterMap Remark.notice?

/-- Two sessions are the same but for what the log was told. -/
structure Alike (s t : Session) : Prop where
  tree : s.tree = t.tree
  printed : s.printed = t.printed
  refusal : s.refusal = t.refusal
  notices : s.notices = t.notices

theorem Alike.refl (s : Session) : Alike s s :=
  ⟨rfl, rfl, rfl, rfl⟩

/-- Two programs cannot be told apart, except by the log. -/
def Agree {α : Type} (x y : StateM Session α) : Prop :=
  ∀ s t, Alike s t → (x s).1 = (y t).1 ∧ Alike (x s).2 (y t).2

namespace Agree

variable {α β : Type} {x y : StateM Session α}

theorem pure (a : α) : Agree (Pure.pure a) (Pure.pure a) :=
  Lockstep.pure a

/-- Programs that agree, each followed by programs that agree. -/
theorem bind (hxy : Agree x y) {f g : α → StateM Session β} (hfg : ∀ a, Agree (f a) (g a)) :
    Agree (x >>= f) (y >>= g) :=
  Lockstep.bind hxy hfg

end Agree

/-- All that can be seen of a run from the outside, but for the log. -/
structure Outcome where
  code : Nat
  printed : String
  notices : List String
  tree : FileTree

/-- The outcome of a program that finds a tree. -/
def outcome (program : StateM Session Nat) (tree : FileTree) : Outcome where
  code := (program (.start tree)).1
  printed := (program (.start tree)).2.printed
  notices := (program (.start tree)).2.notices
  tree := (program (.start tree)).2.tree

theorem Agree.outcome_eq {x y : StateM Session Nat} (h : Agree x y) (tree : FileTree) :
    outcome x tree = outcome y tree := by
  obtain ⟨hcode, hsession⟩ := h _ _ (.refl (.start tree))
  simp only [outcome, hcode, hsession.printed, hsession.notices, hsession.tree]

/-! ## The host in memory -/

/-- A program that reads a file goes on as the tree that it finds has it. -/
theorem agree_read_bind (path : String) {α : Type}
    {f g : Except StorageProblem String → StateM Session α} (hfg : ∀ text, Agree (f text) (g text)) :
    Agree (host.read path >>= f) fun session => g (session.tree.read path) session := by
  intro s t hst
  show (f (s.tree.read path) s).1 = _ ∧ Alike (f (s.tree.read path) s).2 _
  rw [hst.tree]
  exact hfg _ s t hst

theorem agree_write (path text : String) : Agree (host.write path text) (host.write path text) := by
  intro s t hst
  show (FileTree.write path text s.tree).1 = (FileTree.write path text t.tree).1 ∧ Alike _ _
  rw [hst.tree]
  refine ⟨rfl, ?_, hst.printed, hst.refusal, hst.notices⟩
  show (FileTree.write path text s.tree).2 = (FileTree.write path text t.tree).2
  rw [hst.tree]

theorem print_of_refusal {s : Session} {words : String} (h : s.refusal = some words)
    (text : String) : host.print text s = (.error (.other words), s) := by
  simp only [host, h]

theorem print_of_none {s : Session} (h : s.refusal = none) (text : String) :
    host.print text s = (.ok (), { s with printed := s.printed ++ text }) := by
  simp only [host, h]

/-- Printing keeps step under a relation that knows of the refusal and is kept by what is printed.
-/
theorem print_lockstep {R : Session → Session → Prop} {text : String}
    (hrefusal : ∀ {s t}, R s t → s.refusal = t.refusal)
    (hprinted : ∀ {s t}, R s t →
      R { s with printed := s.printed ++ text } { t with printed := t.printed ++ text }) :
    Lockstep R (host.print text) (host.print text) := by
  intro s t hst
  cases ht : t.refusal with
  | some words =>
    rw [print_of_refusal ht, print_of_refusal ((hrefusal hst).trans ht)]
    exact ⟨rfl, hst⟩
  | none =>
    rw [print_of_none ht, print_of_none ((hrefusal hst).trans ht)]
    exact ⟨rfl, hprinted hst⟩

theorem agree_print (text : String) : Agree (host.print text) (host.print text) :=
  print_lockstep Alike.refusal fun h =>
    ⟨h.tree, congrArg (· ++ text) h.printed, h.refusal, h.notices⟩

theorem notices_append (s : Session) (remark : Remark) :
    (host.remark remark s).2.notices = s.notices ++ remark.notice?.toList := by
  show (s.remarks ++ [remark]).filterMap Remark.notice? = _
  rw [List.filterMap_append]
  cases remark <;> rfl

theorem agree_remark (remark : Remark) : Agree (host.remark remark) (host.remark remark) := by
  intro s t hst
  refine ⟨rfl, hst.tree, hst.printed, hst.refusal, ?_⟩
  rw [notices_append, notices_append, hst.notices]

/-- A remark to the log is as good as none. -/
theorem agree_pure_of_log (event : Log.Event) : Agree (host.remark (.log event)) (pure ()) := by
  intro s t hst
  refine ⟨rfl, hst.tree, hst.printed, hst.refusal, ?_⟩
  rw [notices_append]
  show s.notices ++ [] = t.notices
  rw [List.append_nil, hst.notices]

theorem outlet_write_none (text : String) (s : Session) :
    (host.outlet none).write text s =
      ((host.print text s).1.mapError Fault.storage, (host.print text s).2) :=
  rfl

theorem outlet_write_some (path text : String) (s : Session) :
    (host.outlet (some path)).write text s =
      ((FileTree.write path text s.tree).1.mapError Fault.storage,
        { s with tree := (FileTree.write path text s.tree).2 }) :=
  rfl

/-! ## Relations that the host keeps -/

/-- A relation between sessions that is kept when both do the same thing, unless it is for the log.
-/
structure Kept (R : Session → Session → Prop) : Prop where
  tree : ∀ {s t}, R s t → s.tree = t.tree
  write : ∀ path text, Lockstep R (host.write path text) (host.write path text)
  print : ∀ text, Lockstep R (host.print text) (host.print text)
  notice : ∀ text, Lockstep R (host.remark (.notice text)) (host.remark (.notice text))

theorem alike_kept : Kept Alike where
  tree h := h.tree
  write := agree_write
  print := agree_print
  notice text := agree_remark (.notice text)

namespace Kept

variable {R : Session → Session → Prop} (h : Kept R)
include h

theorem read (path : String) : Lockstep R (host.read path) (host.read path) := by
  intro s t hst
  refine ⟨?_, hst⟩
  show s.tree.read path = t.tree.read path
  rw [h.tree hst]

theorem outlet_write (path : Option String) (text : String) :
    Lockstep R ((host.outlet path).write text) ((host.outlet path).write text) := by
  cases path with
  | none => exact (h.print text).bind fun _ => .pure _
  | some path => exact (h.write path text).bind fun _ => .pure _

omit h in
theorem outlet_describe (path : Option String) :
    Lockstep R (host.outlet path).describe (host.outlet path).describe := by
  cases path with
  | none => exact .pure _
  | some path => exact .pure _

end Kept

end Session

end Countoff

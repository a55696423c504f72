/-
Module: OwnerSwitch.Lib.SysProg
Layer: Lib
Purpose: Programs of system calls over a `CrashFs` directory, as a JavaScript program makes them: a call
  returns, throws, or never returns because the power is cut. What the environment does at each call is
  read from a script, so a run is a function of the directory and the script. A failure injected by the
  script carries no meaning beyond its message; the codes a program branches on (`EEXIST`, `ENOENT`,
  `ELOOP`, `EISDIR`) come from the directory alone. Rules of pre- and postconditions for the monad and
  one rule for each call.
Imports: CrashFs
Trusted boundary: writes never follow a symlink
Main exports: Prog, Triple and its rules (bind, try, finally, consequence), openExcl, openRead, openTrunc,
  read, readFile, write, fsync, fsyncDir, touch, rename, unlink, fileExists, readDir, mtime, now
Open obligations: none
-/
import OwnerSwitch.Lib.CrashFs

namespace CrashFs

inductive Errno where
  | EEXIST | ENOENT | ELOOP | EISDIR
  /-- any other -/
  | EOTHER
  deriving DecidableEq, Repr

/-- A thrown error. -/
structure SysError where
  code : Errno
  message : JsString
  deriving DecidableEq, Repr

/-- What happens at a call, besides what the directory determines. -/
inductive Fault where
  | none
  /-- the call throws -/
  | fail (message : JsString)
  /-- the look-up of this path fails where the caller is not told: `existsSync` of it, which never throws -/
  | blind (path : JsString)
  /-- a read or a write transfers at most this much, and at least one octet -/
  | short (n : Nat)
  | cut
  deriving DecidableEq, Repr

/-- One letter of the script: the time that passes before the call, and what happens at it. -/
structure Turn where
  late : Nat
  fault : Fault
  deriving DecidableEq, Repr

/-- Why a program stopped early. A power cut cannot be caught. -/
inductive Stop where
  | error (e : SysError)
  | cut
  deriving DecidableEq, Repr

structure World where
  fs : Fs
  script : List Turn

/-- A program. -/
def Prog (α : Type) : Type :=
  World → Except Stop α × World

namespace Prog

variable {α β : Type}

def run (p : Prog α) (w : World) : Except Stop α × World :=
  p w

instance : Monad Prog where
  pure a := fun w => (.ok a, w)
  bind p f := fun w =>
    match p w with
    | (.ok a, w') => f a w'
    | (.error e, w') => (.error e, w')

/-- A program that returned goes on with what it returned. -/
theorem bind_of_ok {p : Prog α} {f : α → Prog β} {w : World} {a : α} (h : (p w).1 = .ok a) :
    (p >>= f) w = f a (p w).2 := by
  have hbind : (p >>= f) w = match p w with
    | (.ok a, w') => f a w'
    | (.error e, w') => (.error e, w') := rfl
  rw [hbind]
  rcases hp : p w with ⟨r, w'⟩
  rw [hp] at h
  obtain rfl : r = .ok a := h
  rfl

/-- A program that threw goes on no further. -/
theorem bind_of_error {p : Prog α} {f : α → Prog β} {w : World} {e : Stop} (h : (p w).1 = .error e) :
    (p >>= f) w = (.error e, (p w).2) := by
  have hbind : (p >>= f) w = match p w with
    | (.ok a, w') => f a w'
    | (.error e, w') => (.error e, w') := rfl
  rw [hbind]
  rcases hp : p w with ⟨r, w'⟩
  rw [hp] at h
  obtain rfl : r = .error e := h
  rfl

def throw (e : SysError) : Prog α :=
  fun w => (.error (.error e), w)

/-- `try { p } catch (e) { h e }` -/
def tryCatch (p : Prog α) (h : SysError → Prog α) : Prog α :=
  fun w =>
    match p w with
    | (.error (.error e), w') => h e w'
    | r => r

/-- `try { p } finally { f }`: an error of `f` replaces the outcome of `p`. -/
def finally_ (p : Prog α) (f : Prog Unit) : Prog α :=
  fun w =>
    match p w with
    | (.error .cut, w') => (.error .cut, w')
    | (r, w') =>
        match f w' with
        | (.ok _, w'') => (r, w'')
        | (.error e, w'') => (.error e, w'')

/-- One system call: the script says whether it is reached, fails or is short, the directory the rest. -/
def syscall (act : Option Nat → Fs → Except SysError α × Fs) : Prog α :=
  fun w =>
    let turn := w.script.headD ⟨0, .none⟩
    let fs := w.fs.tick turn.late
    let done (r : Except SysError α × Fs) : Except Stop α × World :=
      (r.1.mapError .error, ⟨r.2, w.script.tail⟩)
    match turn.fault with
    | .cut => (.error .cut, ⟨fs, w.script.tail⟩)
    | .fail message => done (.error ⟨.EOTHER, message⟩, fs)
    | .short n => done (act (some n) fs)
    | .blind _ => done (act none fs)
    | .none => done (act none fs)

/-! ### The calls -/

/-- A descriptor: of a file, or of something that is not one. -/
inductive Handle where
  | file (ino : Nat)
  | other
  deriving DecidableEq, Repr

/-- `openSync(path, O_WRONLY | O_CREAT | O_EXCL)` -/
def openExcl (path : JsString) : Prog Nat :=
  syscall fun _ fs =>
    match fs.view path with
    | some _ => (.error ⟨.EEXIST, js "EEXIST: file already exists, open '" ++ path ++ js "'"⟩, fs)
    | none => (.ok fs.inodes.length, fs.create path)

/-- `openSync(path, O_RDONLY | O_NOFOLLOW)` -/
def openRead (path : JsString) : Prog Handle :=
  syscall fun _ fs =>
    match fs.view path with
    | none => (.error ⟨.ENOENT, js "ENOENT: no such file or directory, open '" ++ path ++ js "'"⟩, fs)
    | some (.symlink _) =>
        (.error ⟨.ELOOP, js "ELOOP: too many symbolic links encountered, open '" ++ path ++ js "'"⟩, fs)
    | some .directory => (.ok .other, fs)
    | some (.file i) => (.ok (.file i), fs)

/-- `openSync(path, "w")` -/
def openTrunc (path : JsString) : Prog Nat :=
  syscall fun _ fs =>
    match fs.view path with
    | none => (.ok fs.inodes.length, fs.create path)
    | some (.file i) => (.ok i, fs.truncate i)
    | some .directory =>
        (.error ⟨.EISDIR, js "EISDIR: illegal operation on a directory, open '" ++ path ++ js "'"⟩, fs)
    | some (.symlink _) => (.error ⟨.EOTHER, js "EACCES: permission denied, open '" ++ path ++ js "'"⟩, fs)

/-- How much of `len` octets one call transfers. -/
def transfer (short : Option Nat) (len : Nat) : Nat :=
  match short with
  | none => len
  | some n => min (max n 1) len

/-- `readSync` of at most `max` octets at a position. -/
def read (i pos max : Nat) : Prog Bytes :=
  syscall fun short fs =>
    let rest := ((fs.inode i).cached.drop pos).take max
    (.ok (rest.take (transfer short rest.length)), fs)

/-- `readFileSync` -/
def readFile (path : JsString) : Prog Bytes :=
  syscall fun _ fs =>
    match fs.view path with
    | none => (.error ⟨.ENOENT, js "ENOENT: no such file or directory, open '" ++ path ++ js "'"⟩, fs)
    | some (.file i) => (.ok (fs.inode i).cached, fs)
    | some .directory => (.error ⟨.EISDIR, js "EISDIR: illegal operation on a directory, read"⟩, fs)
    | some (.symlink _) => (.error ⟨.EOTHER, js "EACCES: permission denied, open '" ++ path ++ js "'"⟩, fs)

/-- `writeSync`; how much it wrote. -/
def write (i : Nat) (b : Bytes) : Prog Nat :=
  syscall fun short fs => (.ok (transfer short b.length), fs.write i (b.take (transfer short b.length)))

/-- `fsyncSync` of a file. -/
def fsync (i : Nat) : Prog Unit :=
  syscall fun _ fs => (.ok (), fs.sync i)

/-- `fsyncSync` of the directory. -/
def fsyncDir : Prog Unit :=
  syscall fun _ fs => (.ok (), fs.syncDir)

/-- A call that changes nothing in the directory: `closeSync`, `mkdirSync`, opening the directory,
    `fstatSync`. -/
def touch : Prog Unit :=
  syscall fun _ fs => (.ok (), fs)

/-- `renameSync` -/
def rename (src dst : JsString) : Prog Unit :=
  syscall fun _ fs =>
    match fs.view src with
    | none => (.error ⟨.ENOENT, js "ENOENT: no such file or directory, rename '" ++ src ++ js "' -> '"
        ++ dst ++ js "'"⟩, fs)
    | some _ =>
        if fs.view dst = some .directory then
          (.error ⟨.EISDIR, js "EISDIR: illegal operation on a directory, rename '" ++ src ++ js "' -> '"
            ++ dst ++ js "'"⟩, fs)
        else (.ok (), fs.rename src dst)

/-- `unlinkSync` -/
def unlink (path : JsString) : Prog Unit :=
  syscall fun _ fs =>
    match fs.view path with
    | none => (.error ⟨.ENOENT, js "ENOENT: no such file or directory, unlink '" ++ path ++ js "'"⟩, fs)
    | some .directory =>
        (.error ⟨.EISDIR, js "EISDIR: illegal operation on a directory, unlink '" ++ path ++ js "'"⟩, fs)
    | some _ => (.ok (), fs.unlink path)

/-- Whether something is there, following symlinks. -/
def present (fs : Fs) (path : JsString) : Bool :=
  match fs.view path with
  | none => false
  | some (.symlink resolves) => resolves
  | some _ => true

/-- `existsSync` never throws: where the look-up fails it says that nothing is there. Its failure is `Fault.blind`;
    a failure that throws is of the other calls. -/
def fileExists (path : JsString) : Prog Bool :=
  fun w =>
    let turn := w.script.headD ⟨0, .none⟩
    let fs := w.fs.tick turn.late
    match turn.fault with
    | .cut => (.error .cut, ⟨fs, w.script.tail⟩)
    | .blind unseen => (.ok (unseen ≠ path && present fs path), ⟨fs, w.script.tail⟩)
    | _ => (.ok (present fs path), ⟨fs, w.script.tail⟩)

/-- `readdirSync` -/
def readDir : Prog (List JsString) :=
  syscall fun _ fs => (.ok fs.dir.keys, fs)

/-- `statSync(path).mtimeMs` -/
def mtime (path : JsString) : Prog Int :=
  syscall fun _ fs =>
    match fs.view path with
    | some (.file i) => (.ok (fs.inode i).mtime, fs)
    | some _ => (.error ⟨.EOTHER, js "stat"⟩, fs)
    | none => (.error ⟨.ENOENT, js "ENOENT: no such file or directory, stat '" ++ path ++ js "'"⟩, fs)

/-- `Date.now()` -/
def now : Prog Int :=
  fun w =>
    let turn := w.script.headD ⟨0, .none⟩
    let fs := w.fs.tick turn.late
    match turn.fault with
    | .cut => (.error .cut, ⟨fs, w.script.tail⟩)
    | _ => (.ok fs.clock, ⟨fs, w.script.tail⟩)

/-- Whether a run ended because the power went out. -/
def cutOff : Except Stop α → Bool
  | .error .cut => true
  | _ => false

/-- What a run under a script makes of a directory, when the power cuts are those of `V`. -/
def Leads (V : Fs → Fs → Prop) (p : Prog α) (script : List Turn) (fs fs' : Fs) : Prop :=
  (cutOff (p ⟨fs, script⟩).1 = true → V (p ⟨fs, script⟩).2.fs fs') ∧
    (cutOff (p ⟨fs, script⟩).1 = false → fs' = (p ⟨fs, script⟩).2.fs)

/-! ### Pre- and postconditions -/

/-- From a directory satisfying `P`, under any script of faults `S` allows: a return satisfies `R`, a
    thrown error `E`, and a power cut, if there can be one, `C`. -/
def Triple (S : Fault → Prop) (P : Fs → Prop) (p : Prog α) (R : α → Fs → Prop) (E : SysError → Fs → Prop)
    (C : Fs → Prop) : Prop :=
  ∀ w, P w.fs → (∀ t ∈ w.script, S t.fault) → (∀ t ∈ (p w).2.script, S t.fault) ∧
    match p w with
    | (.ok a, w') => R a w'.fs
    | (.error (.error e), w') => E e w'.fs
    | (.error .cut, w') => S .cut ∧ C w'.fs

/-- A predicate the passing of time does not affect. -/
def Stable (P : Fs → Prop) : Prop :=
  ∀ fs d, P fs → P (fs.tick d)

theorem Stable.and {P Q : Fs → Prop} (hP : Stable P) (hQ : Stable Q) : Stable fun fs => P fs ∧ Q fs :=
  fun fs d h => ⟨hP fs d h.1, hQ fs d h.2⟩

/-- Every call is made and does its work; reads and writes may be short. -/
def Calm : Fault → Prop
  | .none => True
  | .short _ => True
  | .fail _ => False
  | .blind _ => False
  | .cut => False

/-- Calls may fail, the power stays on. -/
def Powered : Fault → Prop
  | .cut => False
  | _ => True

/-- Anything. -/
def Rough : Fault → Prop :=
  fun _ => True

/-- Anything but a look-up of the path that fails unnoticed. -/
def Sees (path : JsString) (f : Fault) : Prop :=
  f ≠ .blind path

section Rules

variable {S : Fault → Prop} {P P' : Fs → Prop} {p : Prog α} {R : α → Fs → Prop}
  {E : SysError → Fs → Prop} {C : Fs → Prop}

/-- Returning does nothing. -/
theorem Triple.pure {a : α} (h : ∀ fs, P fs → R a fs) : Triple S P (pure a : Prog α) R E C :=
  fun w hw hs => ⟨hs, h w.fs hw⟩

/-- Throwing does nothing. -/
theorem Triple.throw {e : SysError} (h : ∀ fs, P fs → E e fs) : Triple S P (throw e : Prog α) R E C :=
  fun w hw hs => ⟨hs, h w.fs hw⟩

/-- One program after the other. -/
theorem Triple.bind {Q : β → Fs → Prop} {q : Prog β} {f : β → Prog α} (hq : Triple S P q Q E C)
    (hf : ∀ b, Triple S (Q b) (f b) R E C) : Triple S P (q >>= f) R E C := by
  intro w hw hs
  obtain ⟨hrest, hpost⟩ := hq w hw hs
  have hbind : (q >>= f) w = match q w with
    | (.ok a, w') => f a w'
    | (.error e, w') => (.error e, w') := rfl
  rw [hbind]
  rcases hqw : q w with ⟨b | b, w'⟩
  · rw [hqw] at hrest hpost
    cases b <;> exact ⟨hrest, hpost⟩
  · rw [hqw] at hrest hpost
    exact hf b w' hpost hrest

/-- Weaker before, stronger after. -/
theorem Triple.conseq {R' : α → Fs → Prop} {E' : SysError → Fs → Prop} {C' : Fs → Prop}
    (h : Triple S P p R E C) (hP : ∀ fs, P' fs → P fs) (hR : ∀ a fs, R a fs → R' a fs)
    (hE : ∀ e fs, E e fs → E' e fs) (hC : ∀ fs, C fs → C' fs) : Triple S P' p R' E' C' := by
  intro w hw hs
  obtain ⟨hrest, hpost⟩ := h w (hP _ hw) hs
  refine ⟨hrest, ?_⟩
  rcases hpw : p w with ⟨(e | _) | a, w'⟩ <;> rw [hpw] at hpost
  · exact hE _ _ hpost
  · exact ⟨hpost.1, hC _ hpost.2⟩
  · exact hR _ _ hpost

theorem Triple.pre (h : Triple S P p R E C) (hP : ∀ fs, P' fs → P fs) : Triple S P' p R E C :=
  h.conseq hP (fun _ _ hr => hr) (fun _ _ he => he) (fun _ hc => hc)

/-- Where a run ends, if returning, throwing and losing power leave the same assertion. -/
theorem Triple.ends {I : Fs → Prop} (h : Triple Rough P p (fun _ => I) (fun _ => I) I) {fs : Fs} (hP : P fs)
    (script : List Turn) : I (p ⟨fs, script⟩).2.fs := by
  obtain ⟨-, hpost⟩ := h ⟨fs, script⟩ hP fun _ _ => trivial
  rcases hp : p ⟨fs, script⟩ with ⟨(e | _) | a, w⟩ <;> rw [hp] at hpost
  · exact hpost
  · exact hpost.2
  · exact hpost

/-- A program that neither throws nor loses power returns. -/
theorem Triple.total (h : Triple S P p R E C) {w : World} (hP : P w.fs) (hs : ∀ t ∈ w.script, S t.fault)
    (hE : ∀ e fs, ¬ E e fs) (hcut : ¬ S .cut) : ∃ a, (p w).1 = .ok a := by
  obtain ⟨-, hpost⟩ := h w hP hs
  rcases hp : p w with ⟨(e | _) | a, w'⟩ <;> rw [hp] at hpost
  · exact absurd hpost (hE _ _)
  · exact absurd hpost.1 hcut
  · exact ⟨a, rfl⟩

/-- What is left of the script after a run. -/
theorem Triple.rest (h : Triple S P p R E C) {w : World} (hP : P w.fs) (hs : ∀ t ∈ w.script, S t.fault) :
    ∀ t ∈ (p w).2.script, S t.fault :=
  (h w hP hs).1

/-- A run that returns satisfies the postcondition. -/
theorem Triple.returns (h : Triple S P p R E C) {w : World} (hP : P w.fs) (hs : ∀ t ∈ w.script, S t.fault)
    {a : α} (ha : (p w).1 = .ok a) : R a (p w).2.fs := by
  obtain ⟨-, hpost⟩ := h w hP hs
  rcases hp : p w with ⟨r, w'⟩
  rw [hp] at hpost ha
  obtain rfl : r = .ok a := ha
  exact hpost

/-- Where a run leads that keeps an assertion which halting keeps as well. -/
theorem Leads.holds {V : Fs → Fs → Prop} {I : Fs → Prop} {script : List Turn} {fs fs' : Fs}
    (h : Leads V p script fs fs') (hend : I (p ⟨fs, script⟩).2.fs) (hV : ∀ fs fs', I fs → V fs fs' → I fs') :
    I fs' := by
  cases hcut : cutOff (p ⟨fs, script⟩).1 with
  | true => exact hV _ _ hend (h.1 hcut)
  | false => exact h.2 hcut ▸ hend

/-- A run that is not cut off leads to where it ends. -/
theorem leads_self {V : Fs → Fs → Prop} {script : List Turn} {fs : Fs} (h : cutOff (p ⟨fs, script⟩).1 = false) :
    Leads V p script fs (p ⟨fs, script⟩).2.fs :=
  ⟨fun hcut => absurd (h.symm.trans hcut) (by simp), fun _ => rfl⟩

/-- A run that returns leads to where it ends. -/
theorem Leads.eq_of_returns {V : Fs → Fs → Prop} {script : List Turn} {fs fs' : Fs} {a : α}
    (h : Leads V p script fs fs') (ha : (p ⟨fs, script⟩).1 = .ok a) : fs' = (p ⟨fs, script⟩).2.fs := by
  apply h.2
  rw [ha]
  rfl

/-- What does not depend on the directory can be assumed. -/
theorem Triple.assume {φ : Prop} (h : φ → Triple S P p R E C) : Triple S (fun fs => P fs ∧ φ) p R E C :=
  fun w hw hs => h hw.2 w hw.1 hs

/-- A handler goes on from where the body threw. -/
theorem Triple.tryCatch {F : SysError → Fs → Prop} {h : SysError → Prog α} (hp : Triple S P p R F C)
    (hh : ∀ e, Triple S (F e) (h e) R E C) : Triple S P (tryCatch p h) R E C := by
  intro w hw hs
  obtain ⟨hrest, hpost⟩ := hp w hw hs
  unfold Prog.tryCatch
  rcases hpw : p w with ⟨(e | _) | a, w'⟩ <;> rw [hpw] at hrest hpost
  · exact hh e w' hpost hrest
  · exact ⟨hrest, hpost⟩
  · exact ⟨hrest, hpost⟩

/-- What runs in any case, after a return and after a throw. -/
theorem Triple.finally_ {Q : α → Fs → Prop} {F : SysError → Fs → Prop} {f : Prog Unit}
    (hp : Triple S P p Q F C) (hr : ∀ a, Triple S (Q a) f (fun _ => R a) E C)
    (he : ∀ e, Triple S (F e) f (fun _ => E e) E C) : Triple S P (finally_ p f) R E C := by
  intro w hw hs
  obtain ⟨hrest, hpost⟩ := hp w hw hs
  unfold Prog.finally_
  rcases hpw : p w with ⟨(e | _) | a, w'⟩ <;> rw [hpw] at hrest hpost
  · have hf := he e w' hpost hrest
    simp only
    rcases hfw : f w' with ⟨(e' | _) | u, w''⟩ <;> rw [hfw] at hf <;> exact hf
  · exact ⟨hrest, hpost⟩
  · have hf := hr a w' hpost hrest
    simp only
    rcases hfw : f w' with ⟨(e' | _) | u, w''⟩ <;> rw [hfw] at hf <;> exact hf

/-- The rule of a system call. -/
theorem Triple.syscall {act : Option Nat → Fs → Except SysError α × Fs} (hP : Stable P)
    (hcut : S .cut → ∀ fs, P fs → C fs)
    (hfail : ∀ m, S (.fail m) → ∀ fs, P fs → E ⟨.EOTHER, m⟩ fs)
    (hret : ∀ short fs a, P fs → (act short fs).1 = .ok a → R a (act short fs).2)
    (herr : ∀ short fs e, P fs → (act short fs).1 = .error e → E e (act short fs).2) :
    Triple S P (syscall act) R E C := by
  intro w hw hs
  have ht := hP w.fs (w.script.headD ⟨0, .none⟩).late hw
  have hrest : ∀ t ∈ w.script.tail, S t.fault := fun t ht => hs t (List.mem_of_mem_tail ht)
  have hhead : (w.script.headD ⟨0, .none⟩).fault ≠ .none →
      S (w.script.headD ⟨0, .none⟩).fault := by
    intro hne
    rcases hscript : w.script with _ | ⟨t, ts⟩
    · rw [hscript] at hne
      exact absurd rfl hne
    · exact hs t (by simp [hscript])
  have hdone : ∀ short, match ((act short (w.fs.tick (w.script.headD ⟨0, .none⟩).late)).1.mapError
      Stop.error, (⟨(act short (w.fs.tick (w.script.headD ⟨0, .none⟩).late)).2, w.script.tail⟩ : World)) with
      | (.ok a, w') => R a w'.fs
      | (.error (.error e), w') => E e w'.fs
      | (.error .cut, w') => S .cut ∧ C w'.fs := by
    intro short
    rcases hact : (act short (w.fs.tick (w.script.headD ⟨0, .none⟩).late)).1 with e | a
    · exact herr short _ e ht hact
    · exact hret short _ a ht hact
  unfold Prog.syscall
  rcases hf : (w.script.headD ⟨0, .none⟩).fault with _ | message | path | n | _ <;>
    simp only [hf] at hhead ⊢
  · exact ⟨hrest, hdone none⟩
  · exact ⟨hrest, hfail message (hhead (by simp)) _ ht⟩
  · exact ⟨hrest, hdone none⟩
  · exact ⟨hrest, hdone (some n)⟩
  · exact ⟨hrest, hhead (by simp), hcut (hhead (by simp)) _ ht⟩

/-- A call that changes nothing. -/
theorem Triple.touch (hP : Stable P) (hcut : S .cut → ∀ fs, P fs → C fs)
    (hfail : ∀ m, S (.fail m) → ∀ fs, P fs → E ⟨.EOTHER, m⟩ fs) :
    Triple S P touch (fun _ => P) E C :=
  Triple.syscall hP hcut hfail (fun _ _ _ h _ => h) (by simp)

/-- Reading a file changes nothing. -/
theorem Triple.readFile {path : JsString} (hP : Stable P) (hcut : S .cut → ∀ fs, P fs → C fs) :
    Triple S P (readFile path)
      (fun bytes fs => P fs ∧ ∃ i, fs.view path = some (.file i) ∧ bytes = (fs.inode i).cached) (fun _ => P) C := by
  apply Triple.syscall hP hcut (fun _ _ _ h => h)
  · intro _ fs bytes h hact
    split at hact
    · cases hact
    · rename_i i hview
      obtain rfl := Except.ok.inj hact
      exact ⟨h, i, hview, rfl⟩
    · cases hact
    · cases hact
  · intro _ fs e h hact
    split at hact <;> exact h

/-- A letter of the script that is not the plain one is one the script may hold. -/
theorem fault_of_ne_none {w : World} (hs : ∀ t ∈ w.script, S t.fault) {f : Fault}
    (hf : (w.script.headD ⟨0, .none⟩).fault = f) (hne : f ≠ .none) : S f := by
  rcases hscript : w.script with _ | ⟨t, ts⟩
  · rw [hscript] at hf
    exact absurd hf.symm hne
  · rw [hscript] at hf
    exact hf ▸ hs t (by simp [hscript])

/-- `Date.now()` does not throw. -/
theorem Triple.now (hP : Stable P) (hcut : S .cut → ∀ fs, P fs → C fs) :
    Triple S P now (fun t fs => P fs ∧ fs.clock = t) E C := by
  intro w hw hs
  have hrest : ∀ t ∈ w.script.tail, S t.fault := fun t ht => hs t (List.mem_of_mem_tail ht)
  have hticked := hP w.fs (w.script.headD ⟨0, .none⟩).late hw
  unfold Prog.now
  rcases hf : (w.script.headD ⟨0, .none⟩).fault <;> simp only [hf]
  iterate 4 exact ⟨hrest, hticked, trivial⟩
  have hcutting := fault_of_ne_none hs hf (by simp)
  exact ⟨hrest, hcutting, hcut hcutting _ hticked⟩

/-- `existsSync` does not throw. What it finds is there, and it misses what is there only where the look-up fails. -/
theorem Triple.fileExists {path : JsString} (hP : Stable P) (hcut : S .cut → ∀ fs, P fs → C fs) :
    Triple S P (fileExists path) (fun b fs => P fs ∧ (b = true → present fs path = true) ∧
      (¬ S (.blind path) → b = present fs path)) E C := by
  intro w hw hs
  have hrest : ∀ t ∈ w.script.tail, S t.fault := fun t ht => hs t (List.mem_of_mem_tail ht)
  have hticked := hP w.fs (w.script.headD ⟨0, .none⟩).late hw
  unfold Prog.fileExists
  rcases hf : (w.script.headD ⟨0, .none⟩).fault with _ | message | unseen | n | _ <;> simp only [hf]
  · exact ⟨hrest, hticked, id, fun _ => trivial⟩
  · exact ⟨hrest, hticked, id, fun _ => trivial⟩
  · have hblind := fault_of_ne_none hs hf (by simp)
    refine ⟨hrest, hticked, fun hb => ((Bool.and_eq_true _ _).mp hb).2, fun hsees => ?_⟩
    have hother : unseen ≠ path := by
      rintro rfl
      exact hsees hblind
    rw [decide_eq_true hother, Bool.true_and]
  · exact ⟨hrest, hticked, id, fun _ => trivial⟩
  · have hcutting := fault_of_ne_none hs hf (by simp)
    exact ⟨hrest, hcutting, hcut hcutting _ hticked⟩

end Rules

end Prog

end CrashFs

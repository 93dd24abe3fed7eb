import TreeShell.Builtin.Find
import TreeShell.Builtin.Grep
import TreeShell.Proofs.Session.Steps

/-!
# What can be wrong with arguments

The arguments of `find` are refused for a mistake, which is told together with the usage, or for an
infinite depth, which is not (`FindOptions.readable_read`). A search pattern is refused as it was
written, for a mistake as well or for repetitions or flags beyond all bounds.
-/

set_option autoImplicit false

namespace TreeShell

namespace FindOptions

/-- What is not read is refused for a mistake, or for being infinite. -/
def Readable {α : Type} (result : Except Fault α) : Prop :=
  ∀ fault, result = .error fault →
    (∃ mistake, fault = .findArguments mistake) ∨ fault = .infiniteInteger

variable {α β : Type}

theorem readable_ok (a : α) : Readable (.ok a : Except Fault α) :=
  fun _ h => nomatch h

theorem readable_mistake (mistake : FindMistake) :
    Readable (.error (.findArguments mistake) : Except Fault α) := by
  rintro fault ⟨rfl⟩
  exact .inl ⟨mistake, rfl⟩

theorem readable_infinite : Readable (.error .infiniteInteger : Except Fault α) := by
  rintro fault ⟨rfl⟩
  exact .inr rfl

theorem Readable.bind {result : Except Fault α} {next : α → Except Fault β} (h : Readable result)
    (hnext : ∀ a, Readable (next a)) : Readable (result >>= next) := by
  cases result with
  | ok a => exact hnext a
  | error other =>
    rintro fault ⟨rfl⟩
    exact h other rfl

theorem readable_withPath (options : FindOptions) (path : String) :
    Readable (options.withPath path) := by
  unfold withPath
  split
  · exact readable_ok _
  · exact readable_mistake _

theorem readable_withPaths (options : FindOptions) (paths : List String) :
    Readable (paths.foldlM withPath options) := by
  induction paths generalizing options with
  | nil => exact readable_ok options
  | cons path rest ih =>
    rw [List.foldlM_cons]
    exact (readable_withPath options path).bind ih

theorem readable_kindOf (value : String) : Readable (kindOf value) := by
  unfold kindOf
  dsimp only
  split
  · exact readable_ok _
  · split
    · exact readable_ok _
    · exact readable_mistake _

theorem readable_depthOf (value : String) : Readable (depthOf value) := by
  unfold depthOf
  split
  · exact readable_mistake _
  · exact readable_mistake _
  · exact readable_infinite
  · dsimp only
    split
    · exact readable_mistake _
    · exact readable_ok _

theorem readable_readFrom (options : FindOptions) (args : List String) :
    Readable (options.readFrom args) := by
  fun_induction readFrom options args with
  | case1 options => exact readable_ok options
  | case2 options rest => exact readable_withPaths options rest
  | case3 options rest ih => exact ih
  | case5 options value rest ih => exact ih
  | case7 options value rest ih => exact (readable_kindOf value).bind ih
  | case9 options value rest ih => exact (readable_depthOf value).bind ih
  | case11 options arg rest _ _ _ _ _ _ _ _ _ ih => exact (readable_withPath options arg).bind ih
  | case4 | case6 | case8 | case10 => exact readable_mistake _

/-- **The arguments of `find` are refused for a mistake or an infinite depth, and for nothing
else.** -/
theorem readable_read (args : List String) : Readable (read args) :=
  readable_readFrom {} args

end FindOptions

/-- No pattern is refused by the file system. -/
theorem LineMatcher.refusal_ne_files (written : String) (e : PatternError) (reason : FileError) :
    refusal written e ≠ .files reason := by
  cases e with
  | mistake | countTooLarge | countTooLong | twoTypes => exact nofun

/-- A search pattern is refused as it was written. -/
theorem LineMatcher.ofArgument_cases (argument : String) (named : String → Option Nat) :
    (∃ matcher, ofArgument argument named = .ok matcher) ∨
      ∃ written e, expressionIn? argument = some written ∧ Pattern.parse written named = .error e ∧
        ofArgument argument named = .error (refusal written e) := by
  unfold ofArgument
  cases expressionIn? argument with
  | none => exact .inl ⟨_, rfl⟩
  | some written =>
    cases hparse : Pattern.parse written named with
    | ok pattern => exact .inl ⟨expression pattern, by simp only [hparse]⟩
    | error e => exact .inr ⟨written, e, rfl, hparse, by simp only [hparse]⟩

/-- `grep` searches for what its first operand stands for to the host, if its flags are known. -/
theorem Shell.run_grep_eq {s : Session} {args targets : List String} {read : ShortFlags}
    {argument : String} (hread : ShortFlags.read "rin" args = read) (hknown : read.unknown? = none)
    (hoperands : read.operands = argument :: targets) :
    (grep args).run s =
      (grepWith read targets (LineMatcher.ofArgument argument s.host.character?)).run s := by
  rw [grep, hread, hknown, hoperands]
  exact run_get_bind _ s

end TreeShell

import TreeShell.Dispatch.Basic
import TreeShell.Proofs.Words.Trimming

/-!
# What aliases come to

An expansion follows a chain: the command word has an alias, the first word of that alias may have
one again, and so on. Of every alias on the way the first word becomes the command word, and the
others are put before the arguments there are, so that those that were typed stay at the end.

A word is seen once only, which is what ends a cycle: no two links of the chain are for the same
word. And the chain is as long as it can be: it ends at the bound, at a word it has been through, or
at one that has no alias (`expandAliases_follows_chain`).

The text of an alias is trimmed before its words are read. They are the words of the text as it
stands if the blanks around it only separate; a text that ends in `a\ ` has another last word when
its final blank is taken away (`not_expandAliases_follows_chain`).
-/

set_option autoImplicit false

namespace TreeShell

namespace Aliases

/-- A word has an alias that is not blank. -/
def HasAlias (aliases : Aliases) (word target : String) : Prop :=
  aliases.get? word = some target ∧ Text.trim target ≠ ""

/-- A step of an expansion: a command word, the text of its alias, and the words that are taken for
those of the text. -/
structure Link where
  word : String
  target : String
  words : List String

namespace Link

/-- The step for an alias: its text is trimmed before its words are read. -/
def trimming (word target : String) : Link :=
  ⟨word, target, (tokenize (Text.trim target)).values⟩

theorem words_trimming (word target : String) :
    (trimming word target).words = (tokenize (Text.trim target)).values := by
  rw [trimming]

/-- The command word after the step: the first word of the alias, unless that is empty. -/
def next (link : Link) : String :=
  if link.words.headD "" = "" then link.word else link.words.headD ""

/-- The words that the step puts before the arguments. -/
def tail (link : Link) : List String :=
  link.words.tail

end Link

/-- The links of a chain lead from one command word to another. -/
inductive Chain (aliases : Aliases) : String → List Link → String → Prop
  | stop (word : String) : Chain aliases word [] word
  | step {link : Link} {links : List Link} {last : String}
      (halias : aliases.HasAlias link.word link.target)
      (hrest : Chain aliases link.next links last) : Chain aliases link.word (link :: links) last

theorem target?_eq_some_iff {aliases : Aliases} {word target : String} :
    aliases.target? word = some target ↔ aliases.HasAlias word target := by
  have hblank : (!(Text.trimmed target.toList).isEmpty) = true ↔ Text.trim target ≠ "" := by
    rw [Bool.not_eq_true', List.isEmpty_eq_false_iff, Text.trim, Ne, Ne, ← String.toList_eq_nil_iff,
      String.toList_ofList]
  rw [target?, Option.filter_eq_some_iff, HasAlias, hblank]

theorem apply_eq (word target : String) (args : List String) :
    apply target ⟨word, args⟩ =
      ⟨(Link.trimming word target).next, (Link.trimming word target).tail ++ args⟩ := by
  rw [apply, Command.parse_eq, Link.next, Link.tail, Link.words_trimming, Link.trimming]

section

variable {aliases : Aliases} {seen : List String} {depth : Nat} {word last : String}
  {links : List Link} {args : List String}

theorem expandFrom_of_mem (h : word ∈ seen) :
    aliases.expandFrom seen (depth + 1) ⟨word, args⟩ = ⟨word, args⟩ := by
  rw [expandFrom, if_pos (List.contains_iff_mem.mpr h)]

theorem expandFrom_of_none (hseen : word ∉ seen) (h : aliases.target? word = none) :
    aliases.expandFrom seen (depth + 1) ⟨word, args⟩ = ⟨word, args⟩ := by
  rw [expandFrom, if_neg (mt List.contains_iff_mem.mp hseen), h]

theorem expandFrom_of_some {target : String} (hseen : word ∉ seen)
    (h : aliases.target? word = some target) :
    aliases.expandFrom seen (depth + 1) ⟨word, args⟩ =
      aliases.expandFrom (word :: seen) depth
        ⟨(Link.trimming word target).next, (Link.trimming word target).tail ++ args⟩ := by
  rw [expandFrom, if_neg (mt List.contains_iff_mem.mp hseen), h, ← apply_eq]

/-- The links of a chain are for aliases that there are. -/
theorem Chain.hasAlias (h : aliases.Chain word links last) {link : Link} (hlink : link ∈ links) :
    aliases.HasAlias link.word link.target := by
  induction h with
  | stop word => exact absurd hlink List.not_mem_nil
  | step halias _ ih =>
    rcases List.mem_cons.mp hlink with rfl | hlink
    · exact halias
    · exact ih hlink

theorem Chain.first (h : aliases.Chain word links last) :
    (links = [] ∧ last = word) ∨ ∃ link rest, links = link :: rest ∧ link.word = word ∧
      aliases.HasAlias link.word link.target ∧ aliases.Chain link.next rest last := by
  cases h with
  | stop => exact .inl ⟨rfl, rfl⟩
  | step halias hrest => exact .inr ⟨_, _, rfl, rfl, halias, hrest⟩

/-- The words of a text that is trimmed are its own if nothing was trimmed but separators. -/
theorem HasAlias.values_trim_iff {target : String} (h : aliases.HasAlias word target) :
    (tokenize (Text.trim target)).values = (tokenize target).values ↔ TrimsSeparators target := by
  refine TreeShell.values_trim_iff fun hnil => h.2 ?_
  rw [Text.trim, hnil]

/-- A chain that is as long as it can be, after some words have been seen and with a bound: it is
through each word once and through none that was seen, and it ends at the bound, at a word that was
seen or that it is through, or at a word without an alias. All texts on it are trimmed. -/
structure IsLongest (aliases : Aliases) (seen : List String) (depth : Nat) (word : String)
    (links : List Link) (last : String) : Prop where
  chain : aliases.Chain word links last
  nodup : (links.map Link.word).Nodup
  fresh : ∀ link ∈ links, link.word ∉ seen
  bounded : links.length ≤ depth
  trimmed : ∀ link ∈ links, link.words = (tokenize (Text.trim link.target)).values
  ended : links.length = depth ∨ last ∈ seen ∨ last ∈ links.map Link.word ∨
    ¬ ∃ target, aliases.HasAlias last target

theorem IsLongest.stop
    (h : depth = 0 ∨ word ∈ seen ∨ ¬ ∃ target, aliases.HasAlias word target) :
    IsLongest aliases seen depth word [] word where
  chain := .stop word
  nodup := .nil
  fresh := fun _ hlink => absurd hlink List.not_mem_nil
  bounded := Nat.zero_le depth
  trimmed := fun _ hlink => absurd hlink List.not_mem_nil
  ended := by
    rcases h with h | h | h
    · exact .inl h.symm
    · exact .inr (.inl h)
    · exact .inr (.inr (.inr h))

theorem IsLongest.step {link : Link}
    (h : IsLongest aliases (link.word :: seen) depth link.next links last)
    (halias : aliases.HasAlias link.word link.target) (hseen : link.word ∉ seen)
    (htrimmed : link.words = (tokenize (Text.trim link.target)).values) :
    IsLongest aliases seen (depth + 1) link.word (link :: links) last where
  chain := .step halias h.chain
  nodup := by
    refine List.nodup_cons.mpr ⟨fun hword => ?_, h.nodup⟩
    obtain ⟨later, hlater, hsame⟩ := List.mem_map.mp hword
    exact h.fresh later hlater (hsame ▸ List.mem_cons_self)
  fresh := by
    intro later hlater
    rcases List.mem_cons.mp hlater with rfl | hlater
    · exact hseen
    · exact fun hmem => h.fresh later hlater (List.mem_cons_of_mem _ hmem)
  bounded := Nat.succ_le_succ h.bounded
  trimmed := List.forall_mem_cons.mpr ⟨htrimmed, h.trimmed⟩
  ended := by
    rcases h.ended with hlast | hlast | hlast | hlast
    · exact .inl (congrArg Nat.succ hlast)
    · rcases List.mem_cons.mp hlast with rfl | hlast
      · exact .inr (.inr (.inl List.mem_cons_self))
      · exact .inr (.inl hlast)
    · exact .inr (.inr (.inl (List.mem_cons_of_mem _ hlast)))
    · exact .inr (.inr (.inr hlast))

end

/-- An expansion follows a chain that is as long as it can be. -/
theorem exists_isLongest (aliases : Aliases) (seen : List String) (depth : Nat) (word : String)
    (args : List String) :
    ∃ links last, IsLongest aliases seen depth word links last ∧
      aliases.expandFrom seen depth ⟨word, args⟩ =
        ⟨last, links.reverse.flatMap Link.tail ++ args⟩ := by
  induction depth generalizing seen word args with
  | zero => exact ⟨[], word, .stop (.inl rfl), rfl⟩
  | succ depth ih =>
    by_cases hseen : word ∈ seen
    · exact ⟨[], word, .stop (.inr (.inl hseen)), expandFrom_of_mem hseen⟩
    · cases htarget : aliases.target? word with
      | none =>
        refine ⟨[], word, .stop (.inr (.inr ?_)), expandFrom_of_none hseen htarget⟩
        rintro ⟨target, halias⟩
        rw [target?_eq_some_iff.mpr halias] at htarget
        exact nomatch htarget
      | some target =>
        let link := Link.trimming word target
        obtain ⟨links, last, hlongest, hexpand⟩ := ih (word :: seen) link.next (link.tail ++ args)
        have hreverse : (link :: links).reverse.flatMap Link.tail ++ args =
            links.reverse.flatMap Link.tail ++ (link.tail ++ args) := by
          rw [List.reverse_cons, List.flatMap_append, List.flatMap_singleton, List.append_assoc]
        have halias : aliases.HasAlias link.word link.target := target?_eq_some_iff.mp htarget
        refine ⟨link :: links, last,
          IsLongest.step hlongest halias hseen (Link.words_trimming _ _), ?_⟩
        rw [hreverse, ← hexpand, expandFrom_of_some hseen htarget]

end Aliases

namespace Shell

open Aliases

/-- **Aliases are followed along one chain.** No word is on it twice, it is no longer than the
configuration allows, and it ends only where the bound is reached, at a word that it has been
through, or at a word without an alias. What is run in the end is the last word, with the words the
links put before the arguments, those of the last link first, and the typed arguments last. The
words of a link are those of the trimmed text of its alias; and these are the words of the text if
and only if nothing was trimmed but separators. -/
theorem expandAliases_follows_chain (call : Command) (s : Session) :
    ∃ links last,
      (expandAliases call).run s =
        (.ok ⟨last, links.reverse.flatMap Link.tail ++ call.args⟩, s) ∧
      s.environment.aliases.Chain call.name links last ∧
      (links.map Link.word).Nodup ∧
      links.length ≤ s.config.shell.maxAliasDepth ∧
      (links.length = s.config.shell.maxAliasDepth ∨ last ∈ links.map Link.word ∨
        ¬ ∃ target, s.environment.aliases.HasAlias last target) ∧
      ∀ link ∈ links, link.words = (tokenize (Text.trim link.target)).values ∧
        (link.words = (tokenize link.target).values ↔ TrimsSeparators link.target) := by
  have hrun : (expandAliases call).run s =
      (.ok (s.environment.aliases.expand s.config.shell.maxAliasDepth call), s) := rfl
  obtain ⟨links, last, hlongest, hexpand⟩ :=
    exists_isLongest s.environment.aliases [] s.config.shell.maxAliasDepth call.name call.args
  refine ⟨links, last, ?_, hlongest.chain, hlongest.nodup, hlongest.bounded, ?_,
    fun link hlink => ?_⟩
  · rw [hrun, expand, hexpand]
  · simpa using hlongest.ended
  · have hwords := hlongest.trimmed link hlink
    refine ⟨hwords, ?_⟩
    rw [hwords]
    exact (hlongest.chain.hasAlias hlink).values_trim_iff

/-- Two aliases for each other are applied once each. -/
example : Aliases.expand [("a", "b x"), ("b", "a y")] 5 ⟨"a", ["z"]⟩ = ⟨"a", ["y", "x", "z"]⟩ := by
  decide

/-- A session with one alias, whose text ends in a blank that is part of its last word. -/
def blankEndedSession : Session :=
  let s := Session.fresh {} ⟨.fresh, some .empty, "tree"⟩ .builtins {} ⟨2024, 1, 1, 0, 0, 0, 0⟩
  { s with environment := { s.environment with aliases := [("x", "show a\\ ")] } }

/-- A blank after a backslash is a character of a word of the text, and not of one of the trimmed
text: no chain of links that take the words of the texts themselves is followed. -/
theorem not_expandAliases_follows_chain :
    ¬ ∀ (call : Command) (s : Session), ∃ links last,
      (expandAliases call).run s =
        (.ok ⟨last, links.reverse.flatMap Link.tail ++ call.args⟩, s) ∧
      s.environment.aliases.Chain call.name links last ∧
      ∀ link ∈ links, link.words = (tokenize link.target).values := by
  intro hall
  obtain ⟨links, last, hrun, hchain, hwords⟩ := hall ⟨"x", []⟩ blankEndedSession
  have hexpanded : (expandAliases ⟨"x", []⟩).run blankEndedSession =
      (.ok ⟨"show", ["a\\"]⟩, blankEndedSession) := by
    have hexpand : blankEndedSession.environment.aliases.expand
        blankEndedSession.config.shell.maxAliasDepth ⟨"x", []⟩ = ⟨"show", ["a\\"]⟩ := by decide
    rw [← hexpand]
    rfl
  rw [hexpanded] at hrun
  simp only [Prod.mk.injEq, Except.ok.injEq, Command.mk.injEq, List.append_nil, and_true] at hrun
  obtain ⟨hlast, hargs⟩ := hrun
  have hx : blankEndedSession.environment.aliases.get? "x" = some "show a\\ " := rfl
  have hshow : blankEndedSession.environment.aliases.get? "show" = none := by decide
  rcases hchain.first with ⟨rfl, rfl⟩ | ⟨link, rest, rfl, hword, halias, hrest⟩
  · exact absurd hlast (by decide)
  · have htarget : link.target = "show a\\ " := by
      have hget := halias.1
      rw [hword, hx] at hget
      exact (Option.some.inj hget).symm
    have hown : link.words = ["show", "a "] := by
      rw [hwords link List.mem_cons_self, htarget]
      decide
    have hnext : link.next = "show" := by simp [Link.next, hown]
    rw [hnext] at hrest
    rcases hrest.first with ⟨rfl, -⟩ | ⟨later, _, -, hlater, hnone, -⟩
    · simp [Link.tail, hown] at hargs
    · have hget := hnone.1
      rw [hlater, hshow] at hget
      exact nomatch hget

end Shell

end TreeShell

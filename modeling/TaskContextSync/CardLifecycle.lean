import TaskContextSync.FileSearch

/-!
# The life of a file search card

A card that `run` creates starts with its search still running; the task it spawned stores
the search's result when the search finishes, and does so once. A card that
`deserialize_card` restores from a saved output starts with that output and no search. At
any time the user may click the card's disclosure, and a click does something only while
the disclosure is enabled: once the search succeeded with at least one result
(`disclosureDisabled`).

Whatever the order of the clicks and of the search finishing (`CardState.run`), the card stays
consistent (`CardState.Consistent`, `cardRun_consistent`): its header shows the spinner
exactly while its search runs, and it is expanded only on a successful response with results,
so it is never expanded on an error, an empty response or a running search.
-/

namespace TaskContextSync

namespace FileSearchToolCard

/-- Whether `render` disables the disclosure: until the search succeeded with results. -/
def disclosureDisabled (card : FileSearchToolCard) : Bool :=
  match card.response with
  | some (.ok response) => response.results.isEmpty
  | _ => true

@[simp] theorem header_loading (card : FileSearchToolCard) :
    card.header.loading = card.response.isNone := by
  obtain ⟨_ | (_ | _), _⟩ := card <;> rfl

theorem disclosureDisabled_eq_false {card : FileSearchToolCard} :
    card.disclosureDisabled = false ↔
      ∃ response, card.response = some (.ok response) ∧ response.results ≠ [] := by
  obtain ⟨_ | (_ | response), _⟩ := card <;> simp [disclosureDisabled, List.isEmpty_iff]

end FileSearchToolCard

/-- What happens to a card on screen: its search finishes, or the user clicks its
disclosure. -/
inductive CardEvent
  | searchFinished
  | disclosureClick

/-- A card on screen, with the result its task stores when its search finishes: `none` once
it has, and for a restored card, whose task is `Task::ready(())`. -/
structure CardState where
  card : FileSearchToolCard
  search : Option (Except String FileSearchResponse)

namespace CardState

/-- The card `run` creates for a valid input, before its search finishes. -/
def created (lib : SearchLib) (input : FileSearchToolInput) (global : Option IdeContext)
    (o : PostOutcome) : CardState :=
  ⟨FileSearchToolCard.new, some (FileSearchTool.performSearch lib input (contextFilters global) o).2⟩

/-- The card `deserialize_card` restores from a saved output. -/
def restored (output : FileSearchResponse) : CardState :=
  ⟨FileSearchToolCard.fromOutput output, none⟩

/-- One event: the card's task stores its search's result, once; a click toggles the card
while its disclosure is enabled, and a disabled disclosure ignores it. -/
def step (s : CardState) : CardEvent → CardState
  | .searchFinished =>
    match s.search with
    | some response => ⟨s.card.complete response, none⟩
    | none => s
  | .disclosureClick => if s.card.disclosureDisabled then s else ⟨s.card.toggle, s.search⟩

/-- A card after a sequence of events. -/
def run (s : CardState) (evs : List CardEvent) : CardState :=
  evs.foldl CardState.step s

/-- What a card on screen keeps. -/
structure Consistent (s : CardState) : Prop where
  /-- The header shows the spinner exactly while the search runs. -/
  loading : s.card.header.loading = s.search.isSome
  /-- An expanded card holds a successful response with results. -/
  expanded : s.card.expanded = true →
    ∃ response, s.card.response = some (.ok response) ∧ response.results ≠ []

theorem consistent_created (lib : SearchLib) (input : FileSearchToolInput)
    (global : Option IdeContext) (o : PostOutcome) : (created lib input global o).Consistent where
  loading := rfl
  expanded := nofun

theorem consistent_restored (output : FileSearchResponse) : (restored output).Consistent where
  loading := rfl
  expanded := nofun

/-- Each event keeps a card consistent. -/
theorem Consistent.step {s : CardState} (hs : s.Consistent) (e : CardEvent) :
    (s.step e).Consistent := by
  cases e with
  | searchFinished =>
    cases hsearch : s.search with
    | none => simpa only [CardState.step, hsearch] using hs
    | some response =>
      have hnone : s.card.response = none := by
        simpa [hsearch] using hs.loading
      simp only [CardState.step, hsearch]
      refine ⟨by simp [FileSearchToolCard.complete], fun hexp => ?_⟩
      obtain ⟨_, hresponse, -⟩ := hs.expanded hexp
      simp [hnone] at hresponse
  | disclosureClick =>
    cases hd : s.card.disclosureDisabled with
    | true => simpa only [CardState.step, hd, if_true] using hs
    | false =>
      simp only [CardState.step, hd, Bool.false_eq_true, if_false]
      exact ⟨hs.loading, fun _ => FileSearchToolCard.disclosureDisabled_eq_false.mp hd⟩

theorem Consistent.run {s : CardState} (hs : s.Consistent) (evs : List CardEvent) :
    (s.run evs).Consistent := by
  induction evs generalizing s with
  | nil => exact hs
  | cons e evs ih => exact ih (hs.step e)

/-- **A card's life.** Whatever the user clicks, and whenever the search finishes, a card
that `run` created or `deserialize_card` restored shows the spinner exactly while its search
runs, and is expanded only on a successful response with results. -/
theorem cardRun_consistent (lib : SearchLib) (input : FileSearchToolInput)
    (global : Option IdeContext) (o : PostOutcome) (output : FileSearchResponse)
    (evs : List CardEvent) :
    ((created lib input global o).run evs).Consistent ∧ ((restored output).run evs).Consistent :=
  ⟨(consistent_created lib input global o).run evs, (consistent_restored output).run evs⟩

end CardState

end TaskContextSync

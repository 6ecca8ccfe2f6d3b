/-!
# Questions one after the other

What answers a question may change by it. Questions to it are asked one after the other, each of
what the one before has left.
-/

namespace ToolAgent

variable {σ ρ ρ' β : Type}

/-- Asks one question after the other: the answers, and what is left. -/
def askAll (ask : σ → ρ → β × σ) : σ → List ρ → List β × σ
  | s, [] => ([], s)
  | s, question :: rest =>
    let (answer, s) := ask s question
    let (answers, s) := askAll ask s rest
    (answer :: answers, s)

theorem askAll_cons (ask : σ → ρ → β × σ) (s : σ) (question : ρ) (rest : List ρ) :
    askAll ask s (question :: rest) =
      ((ask s question).1 :: (askAll ask (ask s question).2 rest).1,
        (askAll ask (ask s question).2 rest).2) := rfl

theorem askAll_map (ask : σ → ρ → β × σ) (question : ρ' → ρ) (s : σ) (rest : List ρ') :
    askAll ask s (rest.map question) = askAll (fun s q => ask s (question q)) s rest := by
  induction rest generalizing s with
  | nil => rfl
  | cons q rest ih => rw [List.map_cons, askAll_cons, askAll_cons, ih]

end ToolAgent

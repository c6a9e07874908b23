import Enunciado.Settings.Source

namespace Enunciado.Settings

variable {env env' : Environment} {text : String}

theorem integerField_congr (h : ∀ name ∈ variableNames, lookup name env = lookup name env') :
    ∀ entry ∈ integerVariables, integerField env entry = integerField env' entry := by
  intro entry he
  have hn : variableName entry.1 ∈ variableNames :=
    List.mem_map_of_mem (List.mem_append_left _ (List.mem_map_of_mem he))
  rw [integerField, integerField, h _ hn]

-- Only the variables with these names make a difference.
theorem ofEnvironment_congr (h : ∀ name ∈ variableNames, lookup name env = lookup name env') :
    ofEnvironment env = ofEnvironment env' := by
  have hs : lookup (variableName strictVariable) env = lookup (variableName strictVariable) env' :=
    h _ (List.mem_map_of_mem (List.mem_append_right _ (List.mem_singleton_self _)))
  have hf := integerField_congr h
  simp only [integerVariables, List.forall_mem_cons] at hf
  simp only [ofEnvironment, integerVariables, List.mapM_cons, List.mapM_nil, hf, hs]

-- A file of variables changes no settings where all the variables are set.
theorem ofEnvironmentAnd_eq (reader : VariableReader)
    (hv : ∀ name ∈ variableNames, ∃ value, lookup name env = some value)
    (hl : reader.load env text = .ok env') :
    ofEnvironmentAnd reader env (some text) = ofEnvironment env := by
  have he : ofEnvironmentAnd reader env (some text) = ofEnvironment env' := by
    rw [ofEnvironmentAnd, hl]
    rfl
  rw [he]
  refine ofEnvironment_congr fun name hn => ?_
  obtain ⟨value, hv⟩ := hv name hn
  rw [hv, reader.keeps hl hv]

end Enunciado.Settings

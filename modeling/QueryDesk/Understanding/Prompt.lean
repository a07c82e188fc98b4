import QueryDesk.Decimal.Fixed
import QueryDesk.Intent
import QueryDesk.Model.Request
import QueryDesk.Query.Basic

/-!
# Prompts

The instructions and the request sent to the language model, and the analysis used in its place
when it cannot be asked.
-/

namespace QueryDesk.Prompt

/-- The instructions: answer with one JSON object of seven keys. -/
def system : String :=
  "You are a data analysis assistant. Analyse the user's query " ++
  "and reply with ONLY a JSON object containing these keys:\n" ++
  "- data_entity: the business entity being queried (users, orders, products, logs)\n" ++
  "- query_type: one of statistics, analysis, trend, comparison, filter, aggregation, " ++
  "ranking, distribution, correlation\n" ++
  "- conditions: filter conditions, in prose\n" ++
  "- aggregations: aggregation functions and grouping, in prose\n" ++
  "- time_range: the time range, in prose\n" ++
  "- output_requirements: the desired output (table, chart, csv), in prose\n" ++
  "- description: a one-sentence description of the query\n" ++
  "Use an empty string for anything the query does not mention."

def user (text : String) (found : IntentResult) : String :=
  "Query: " ++ text ++ "\nDetected intent: " ++ found.intent.name ++ "\nConfidence: " ++
    String.ofList (Decimal.twoPlaces found.confidence) ++ "\n\nReturn the JSON analysis."

def request (sampling : Sampling) (text : String) (found : IntentResult) : ModelRequest :=
  ⟨system, user text found, sampling.temperature, sampling.maxTokens⟩

/-- The one-line description of a query that has no better one. -/
def plainDescription (i : Intent) : String :=
  i.name ++ " query"

/-- The analysis made of the classifier's finding alone. -/
def fallbackAnalysis (found : IntentResult) : Analysis where
  dataEntity := found.parameters.entity.map Entity.name
  queryType := some found.intent.name
  conditions := none
  aggregations := found.parameters.aggregation
  timeRange := found.parameters.timeRange
  outputRequirements := none
  description := some (plainDescription found.intent)
  fallback := true

end QueryDesk.Prompt

import BooleanSearch.Cache.Lru
import BooleanSearch.Json.Printer
import BooleanSearch.Query.Expr
import BooleanSearch.Report.Basic

/-!
# Structured texts

Reports as plain data that is written as JSON.
-/

namespace BooleanSearch.Report.Structured

def queryValue (query : Query.Expr) : Value :=
  .dict [(.text "query", .text query.render), (.text "ast", query.toValue)]

def cacheStatsValue (stats : List Cache.Stats) : Value :=
  .dict [(.text "caches", .list (stats.map Cache.Stats.toValue))]

def errorValue (message : String) (title : Option String) : Value :=
  .dict ([(.text "success", .bool false), (.text "error", .text message)]
    ++ ((filled? title).map fun title => (Value.text "title", Value.text title)).toList)

end BooleanSearch.Report.Structured

import PortableSql.Expression.FunctionTable

/-! The portable functions, as a database close to the standard has them. -/

namespace PortableSql.FunctionTable

open Change

private def unary (names : List String) : List Change :=
  names.map fun name => native name 1 (some 1)

def aggregates : List Change :=
  unary ["count", "sum", "avg", "min", "max"] ++
  [ pattern "every" "(sum(case when ?1 then 0 else 1 end)=0)",
    pattern "any" "(sum(case when ?1 then 1 else 0 end)>0)" ]

def arithmetic : List Change :=
  unary ["abs", "sign", "sqrt", "ln", "exp", "floor", "ceiling", "degrees", "radians", "sin",
    "cos", "tan", "asin", "acos", "atan"] ++
  [ native "power" 2 (some 2),
    native "mod" 2 (some 2),
    native "round" 1 (some 2),
    native "pi" 0 (some 0),
    pattern "log10" "log(10,?1)",
    native "log" 2 (some 2),
    native "atan2" 2 (some 2) ]

def comparisons : List Change :=
  [ native "coalesce" 1 none,
    native "nullif" 2 (some 2),
    pattern "ifnull" "coalesce(?1,?2)",
    native "least" 2 none,
    native "greatest" 2 none ]

def textFunctions : List Change :=
  unary ["lower", "upper", "trim"] ++
  [ native "left" 2 (some 2),
    native "right" 2 (some 2),
    native "replace" 3 (some 3),
    native "substring" 2 (some 3),
    native "lpad" 2 (some 3),
    native "rpad" 2 (some 3),
    joined "concat" "(" "||" ")" 1,
    pattern "length" "character_length(?1)",
    pattern "position" "position(?1 in ?2)",
    pattern "locate" "position(?1 in ?2)",
    pattern "overlay" "overlay(?1 placing ?2 from ?3)",
    pattern "str" "cast(?1 as varchar)",
    native "format" 2 (some 2) ]

def calendarFunctions : List Change :=
  [ native "timestampadd" 3 (some 3),
    native "timestampdiff" 3 (some 3),
    synonym "dateadd" "timestampadd",
    synonym "datediff" "timestampdiff",
    bare "current_date" "current_date",
    bare "current_time" "current_time",
    bare "current_timestamp" "current_timestamp",
    bare "local_date" "current_date",
    bare "local_time" "localtime",
    bare "local_datetime" "localtimestamp",
    bare "offset_datetime" "current_timestamp",
    bare "instant" "current_timestamp",
    synonym "current date" "current_date",
    synonym "current time" "current_time",
    synonym "current timestamp" "current_timestamp",
    synonym "local date" "local_date",
    synonym "local time" "local_time",
    synonym "local datetime" "local_datetime",
    synonym "offset datetime" "offset_datetime",
    synonym "current_instant" "instant" ]

def standardChanges : List Change :=
  aggregates ++ arithmetic ++ comparisons ++ textFunctions ++ calendarFunctions

def standard : FunctionTable := empty.run standardChanges

/-- The functions that only exist where timestamps can be computed with. -/
def timestampArithmetic : List String :=
  ["timestampadd", "timestampdiff", "dateadd", "datediff"]

end PortableSql.FunctionTable

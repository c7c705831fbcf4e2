import TypedSql.Text.Lowercase

namespace TypedSql

def standardKeywords : List String :=
  ["abs", "all", "allocate", "alter", "and", "any", "are", "array", "as", "asensitive",
   "asymmetric", "at", "atomic", "authorization", "avg", "begin", "between", "bigint", "binary",
   "blob", "boolean", "both", "by", "call", "called", "cardinality", "cascaded", "case", "cast",
   "ceil", "ceiling", "char", "char_length", "character", "character_length", "check", "clob",
   "close", "coalesce", "collate", "collect", "column", "commit", "condition", "connect",
   "constraint", "convert", "corr", "corresponding", "count", "covar_pop", "covar_samp",
   "create", "cross", "cube", "cume_dist", "current", "current_date",
   "current_default_transform_group", "current_path", "current_role", "current_time",
   "current_timestamp", "current_transform_group_for_type", "current_user", "cursor", "cycle",
   "date", "day", "deallocate", "dec", "decimal", "declare", "default", "delete", "dense_rank",
   "deref", "describe", "deterministic", "disconnect", "distinct", "double", "drop", "dynamic",
   "each", "element", "else", "end", "end-exec", "escape", "every", "except", "exec", "execute",
   "exists", "exp", "external", "extract", "false", "fetch", "filter", "float", "floor", "for",
   "foreign", "free", "from", "full", "function", "fusion", "get", "global", "grant", "group",
   "grouping", "having", "hold", "hour", "identity", "in", "indicator", "inner", "inout",
   "insensitive", "insert", "int", "integer", "intersect", "intersection", "interval", "into",
   "is", "join", "language", "large", "lateral", "leading", "left", "like", "ln", "local",
   "localtime", "localtimestamp", "lower", "match", "max", "member", "merge", "method", "min",
   "minute", "mod", "modifies", "module", "month", "multiset", "national", "natural", "nchar",
   "nclob", "new", "no", "none", "normalize", "not", "null", "nullif", "numeric", "octet_length",
   "of", "old", "on", "only", "open", "or", "order", "out", "outer", "over", "overlaps",
   "overlay", "parameter", "partition", "percent_rank", "percentile_cont", "percentile_disc",
   "position", "power", "precision", "prepare", "primary", "procedure", "range", "rank", "reads",
   "real", "recursive", "ref", "references", "referencing", "regr_avgx", "regr_avgy",
   "regr_count", "regr_intercept", "regr_r2", "regr_slope", "regr_sxx", "regr_sxy", "regr_syy",
   "release", "result", "return", "returns", "revoke", "right", "rollback", "rollup", "row",
   "row_number", "rows", "savepoint", "scope", "scroll", "search", "second", "select",
   "sensitive", "session_user", "set", "similar", "smallint", "some", "specific", "specifictype",
   "sql", "sqlexception", "sqlstate", "sqlwarning", "sqrt", "start", "static", "stddev_pop",
   "stddev_samp", "submultiset", "substring", "sum", "symmetric", "system", "system_user",
   "table", "tablesample", "then", "time", "timestamp", "timezone_hour", "timezone_minute", "to",
   "trailing", "translate", "translation", "treat", "trigger", "trim", "true", "uescape",
   "union", "unique", "unknown", "unnest", "update", "upper", "user", "using", "value", "values",
   "var_pop", "var_samp", "varchar", "varying", "when", "whenever", "where", "width_bucket",
   "window", "with", "within", "without", "year"]

def reservedKeywords (extra : List String) : List String :=
  standardKeywords ++ extra.map Text.lowercase

def distinctCount (words : List String) : Nat :=
  words.eraseDups.length

end TypedSql

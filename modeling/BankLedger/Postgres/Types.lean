import BankLedger.Sql.TypeTable

/-!
# The Postgres type table

The built-in types of Postgres by object identifier.  Numbers and truth values keep their kind,
every other scalar type is kept as its text, and an array type has the array kind of its elements.
The pseudo type of untyped literals is listed as invalid.
-/

namespace BankLedger.Postgres

open BankLedger.Sql

/-- The built-in types, in ascending order of their identifiers. -/
def types : TypeTable := ⟨#[
  ⟨16, "bool", .bool⟩,
  ⟨17, "bytea", .string⟩,
  ⟨18, "char", .string⟩,
  ⟨19, "name", .string⟩,
  ⟨20, "int8", .int⟩,
  ⟨21, "int2", .int⟩,
  ⟨22, "int2vector", .string⟩,
  ⟨23, "int4", .int⟩,
  ⟨24, "regproc", .int⟩,
  ⟨25, "text", .string⟩,
  ⟨26, "oid", .int⟩,
  ⟨27, "tid", .string⟩,
  ⟨28, "xid", .string⟩,
  ⟨29, "cid", .string⟩,
  ⟨30, "oidvector", .string⟩,
  ⟨32, "pg_ddl_command", .string⟩,
  ⟨71, "pg_type", .string⟩,
  ⟨75, "pg_attribute", .string⟩,
  ⟨81, "pg_proc", .string⟩,
  ⟨83, "pg_class", .string⟩,
  ⟨114, "json", .string⟩,
  ⟨142, "xml", .string⟩,
  ⟨143, "_xml", .stringArray⟩,
  ⟨194, "pg_node_tree", .string⟩,
  ⟨199, "_json", .stringArray⟩,
  ⟨210, "_pg_type", .stringArray⟩,
  ⟨269, "table_am_handler", .string⟩,
  ⟨270, "_pg_attribute", .stringArray⟩,
  ⟨271, "_xid8", .stringArray⟩,
  ⟨272, "_pg_proc", .stringArray⟩,
  ⟨273, "_pg_class", .stringArray⟩,
  ⟨325, "index_am_handler", .string⟩,
  ⟨600, "point", .string⟩,
  ⟨601, "lseg", .string⟩,
  ⟨602, "path", .string⟩,
  ⟨603, "box", .string⟩,
  ⟨604, "polygon", .string⟩,
  ⟨628, "line", .string⟩,
  ⟨629, "_line", .stringArray⟩,
  ⟨650, "cidr", .string⟩,
  ⟨651, "_cidr", .stringArray⟩,
  ⟨700, "float4", .float⟩,
  ⟨701, "float8", .float⟩,
  ⟨705, "unknown", .invalid⟩,
  ⟨718, "circle", .string⟩,
  ⟨719, "_circle", .stringArray⟩,
  ⟨774, "macaddr8", .string⟩,
  ⟨775, "_macaddr8", .stringArray⟩,
  ⟨790, "money", .string⟩,
  ⟨791, "_money", .stringArray⟩,
  ⟨829, "macaddr", .string⟩,
  ⟨869, "inet", .string⟩,
  ⟨1000, "_bool", .boolArray⟩,
  ⟨1001, "_bytea", .stringArray⟩,
  ⟨1002, "_char", .stringArray⟩,
  ⟨1003, "_name", .stringArray⟩,
  ⟨1005, "_int2", .intArray⟩,
  ⟨1006, "_int2vector", .stringArray⟩,
  ⟨1007, "_int4", .intArray⟩,
  ⟨1008, "_regproc", .stringArray⟩,
  ⟨1009, "_text", .stringArray⟩,
  ⟨1010, "_tid", .stringArray⟩,
  ⟨1011, "_xid", .intArray⟩,
  ⟨1012, "_cid", .intArray⟩,
  ⟨1013, "_oidvector", .stringArray⟩,
  ⟨1014, "_bpchar", .stringArray⟩,
  ⟨1015, "_varchar", .stringArray⟩,
  ⟨1016, "_int8", .intArray⟩,
  ⟨1017, "_point", .stringArray⟩,
  ⟨1018, "_lseg", .stringArray⟩,
  ⟨1019, "_path", .stringArray⟩,
  ⟨1020, "_box", .stringArray⟩,
  ⟨1021, "_float4", .floatArray⟩,
  ⟨1022, "_float8", .floatArray⟩,
  ⟨1027, "_polygon", .stringArray⟩,
  ⟨1028, "_oid", .intArray⟩,
  ⟨1033, "aclitem", .string⟩,
  ⟨1034, "_aclitem", .stringArray⟩,
  ⟨1040, "_macaddr", .stringArray⟩,
  ⟨1041, "_inet", .stringArray⟩,
  ⟨1042, "bpchar", .string⟩,
  ⟨1043, "varchar", .string⟩,
  ⟨1082, "date", .string⟩,
  ⟨1083, "time", .string⟩,
  ⟨1114, "timestamp", .string⟩,
  ⟨1115, "_timestamp", .stringArray⟩,
  ⟨1182, "_date", .stringArray⟩,
  ⟨1183, "_time", .stringArray⟩,
  ⟨1184, "timestamptz", .string⟩,
  ⟨1185, "_timestamptz", .stringArray⟩,
  ⟨1186, "interval", .string⟩,
  ⟨1187, "_interval", .stringArray⟩,
  ⟨1231, "_numeric", .floatArray⟩,
  ⟨1263, "_cstring", .stringArray⟩,
  ⟨1266, "timetz", .string⟩,
  ⟨1270, "_timetz", .stringArray⟩,
  ⟨1560, "bit", .string⟩,
  ⟨1561, "_bit", .stringArray⟩,
  ⟨1562, "varbit", .string⟩,
  ⟨1563, "_varbit", .stringArray⟩,
  ⟨1700, "numeric", .float⟩,
  ⟨1790, "refcursor", .string⟩,
  ⟨2201, "_refcursor", .stringArray⟩,
  ⟨2202, "regprocedure", .int⟩,
  ⟨2203, "regoper", .int⟩,
  ⟨2204, "regoperator", .int⟩,
  ⟨2205, "regclass", .int⟩,
  ⟨2206, "regtype", .int⟩,
  ⟨2207, "_regprocedure", .stringArray⟩,
  ⟨2208, "_regoper", .stringArray⟩,
  ⟨2209, "_regoperator", .stringArray⟩,
  ⟨2210, "_regclass", .stringArray⟩,
  ⟨2211, "_regtype", .stringArray⟩,
  ⟨2249, "record", .string⟩,
  ⟨2275, "cstring", .string⟩,
  ⟨2276, "any", .string⟩,
  ⟨2277, "anyarray", .string⟩,
  ⟨2278, "void", .string⟩,
  ⟨2279, "trigger", .string⟩,
  ⟨2280, "language_handler", .string⟩,
  ⟨2281, "internal", .string⟩,
  ⟨2283, "anyelement", .string⟩,
  ⟨2776, "anynonarray", .string⟩,
  ⟨2949, "_txid_snapshot", .stringArray⟩,
  ⟨2950, "uuid", .string⟩,
  ⟨2951, "_uuid", .stringArray⟩,
  ⟨2970, "txid_snapshot", .string⟩,
  ⟨3115, "fdw_handler", .string⟩,
  ⟨3220, "pg_lsn", .string⟩,
  ⟨3221, "_pg_lsn", .stringArray⟩,
  ⟨3310, "tsm_handler", .string⟩,
  ⟨3361, "pg_ndistinct", .string⟩,
  ⟨3402, "pg_dependencies", .string⟩,
  ⟨3500, "anyenum", .string⟩,
  ⟨3614, "tsvector", .string⟩,
  ⟨3615, "tsquery", .string⟩,
  ⟨3642, "gtsvector", .string⟩,
  ⟨3643, "_tsvector", .stringArray⟩,
  ⟨3644, "_gtsvector", .stringArray⟩,
  ⟨3645, "_tsquery", .stringArray⟩,
  ⟨3734, "regconfig", .int⟩,
  ⟨3735, "_regconfig", .stringArray⟩,
  ⟨3769, "regdictionary", .int⟩,
  ⟨3770, "_regdictionary", .stringArray⟩,
  ⟨3802, "jsonb", .string⟩,
  ⟨3807, "_jsonb", .stringArray⟩,
  ⟨3831, "anyrange", .string⟩,
  ⟨3838, "event_trigger", .string⟩,
  ⟨3904, "int4range", .string⟩,
  ⟨3905, "_int4range", .stringArray⟩,
  ⟨3906, "numrange", .string⟩,
  ⟨3907, "_numrange", .stringArray⟩,
  ⟨3908, "tsrange", .string⟩,
  ⟨3909, "_tsrange", .stringArray⟩,
  ⟨3910, "tstzrange", .string⟩,
  ⟨3911, "_tstzrange", .stringArray⟩,
  ⟨3912, "daterange", .string⟩,
  ⟨3913, "_daterange", .stringArray⟩,
  ⟨3926, "int8range", .string⟩,
  ⟨3927, "_int8range", .stringArray⟩,
  ⟨4072, "jsonpath", .string⟩,
  ⟨4073, "_jsonpath", .stringArray⟩,
  ⟨4089, "regnamespace", .int⟩,
  ⟨4090, "_regnamespace", .stringArray⟩,
  ⟨4096, "regrole", .int⟩,
  ⟨4097, "_regrole", .stringArray⟩,
  ⟨4191, "regcollation", .int⟩,
  ⟨4192, "_regcollation", .stringArray⟩,
  ⟨4451, "int4multirange", .string⟩,
  ⟨4532, "nummultirange", .string⟩,
  ⟨4533, "tsmultirange", .string⟩,
  ⟨4534, "tstzmultirange", .string⟩,
  ⟨4535, "datemultirange", .string⟩,
  ⟨4536, "int8multirange", .string⟩,
  ⟨4537, "anymultirange", .string⟩,
  ⟨4538, "anycompatiblemultirange", .string⟩,
  ⟨4600, "pg_brin_bloom_summary", .string⟩,
  ⟨4601, "pg_brin_minmax_multi_summary", .string⟩,
  ⟨5017, "pg_mcv_list", .string⟩,
  ⟨5038, "pg_snapshot", .string⟩,
  ⟨5039, "_pg_snapshot", .stringArray⟩,
  ⟨5069, "xid8", .string⟩,
  ⟨5077, "anycompatible", .string⟩,
  ⟨5078, "anycompatiblearray", .string⟩,
  ⟨5079, "anycompatiblenonarray", .string⟩,
  ⟨5080, "anycompatiblerange", .string⟩,
  ⟨6150, "_int4multirange", .stringArray⟩,
  ⟨6151, "_nummultirange", .stringArray⟩,
  ⟨6152, "_tsmultirange", .stringArray⟩,
  ⟨6153, "_tstzmultirange", .stringArray⟩,
  ⟨6155, "_datemultirange", .stringArray⟩,
  ⟨6157, "_int8multirange", .stringArray⟩
]⟩

end BankLedger.Postgres

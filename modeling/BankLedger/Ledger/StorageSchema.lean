/-!
# The schema of the storage

The statements that make the tables and the procedures which the requests of the ledger call.
-/

namespace BankLedger.Ledger

/-- The lines of the schema. -/
def storageSchemaLines : List String :=
  ["-- Storage used by the ledger service.",
    "",
    "create table if not exists accounts (",
    "    id integer primary key,",
    "    account_limit bigint not null check (account_limit >= 0),",
    "    balance bigint not null default 0",
    ");",
    "",
    "create table if not exists movements (",
    "    id bigserial primary key,",
    "    account integer not null references accounts (id),",
    "    is_credit boolean not null,",
    "    amount bigint not null check (amount > 0),",
    "    description varchar(10) not null,",
    "    performed_at timestamptz not null default now()",
    ");",
    "",
    "create index if not exists movements_account_performed_at",
    "    on movements (account, performed_at desc);",
    "",
    "create or replace procedure record_movement(",
    "    p_account integer,",
    "    p_is_credit boolean,",
    "    p_amount bigint,",
    "    p_description varchar(10)",
    ")",
    "language sql",
    "as $$",
    "    insert into movements (account, is_credit, amount, description)",
    "    values (p_account, p_is_credit, p_amount, p_description);",
    "$$;",
    "",
    "create or replace procedure settle_balance(p_account integer, p_balance bigint)",
    "language sql",
    "as $$",
    "    update accounts set balance = p_balance where id = p_account;",
    "$$;",
    "",
    "create or replace function recent_movements(p_account integer, p_limit bigint)",
    "returns table (amount bigint, is_credit boolean, description varchar(10), performed_at text)",
    "language sql",
    "stable",
    "as $$",
    "    select m.amount, m.is_credit, m.description, m.performed_at::text",
    "    from movements as m",
    "    where m.account = p_account",
    "    order by m.performed_at desc",
    "    limit p_limit;",
    "$$;",
    "",
    "insert into accounts (id, account_limit, balance) values",
    "    (1, 100000, 0),",
    "    (2, 80000, 0),",
    "    (3, 1000000, 0),",
    "    (4, 10000000, 0),",
    "    (5, 500000, 0)",
    "on conflict (id) do nothing;"]

/-- The schema as a text. -/
def storageSchema : String :=
  String.join (storageSchemaLines.map fun line => line ++ "\n")

end BankLedger.Ledger

/-!
The changes that build the tables of the database, in the order in which they are applied.
-/

set_option autoImplicit false

namespace Passbook

structure Migration where
  version : Nat
  description : String
  sql : String
  deriving DecidableEq

namespace Migration

/-- Accounts and the entries that refer to them. Amounts have sixteen integer digits and four
fractional ones; a balance is not negative, and an amount is positive. -/
def createLedgerSql : String :=
  "-- Wallet accounts and their append-only transaction history.\n" ++
  "\n" ++
  "CREATE TYPE transaction_type AS ENUM ('credit', 'debit');\n" ++
  "\n" ++
  "CREATE TABLE IF NOT EXISTS accounts (\n" ++
  "    id            BIGSERIAL PRIMARY KEY,\n" ++
  "    username      TEXT NOT NULL UNIQUE,\n" ++
  "    password_hash TEXT NOT NULL,\n" ++
  "    balance       NUMERIC(20, 4) NOT NULL DEFAULT 0 CHECK (balance >= 0),\n" ++
  "    created_at    TIMESTAMPTZ NOT NULL DEFAULT NOW(),\n" ++
  "    updated_at    TIMESTAMPTZ NOT NULL DEFAULT NOW()\n" ++
  ");\n" ++
  "\n" ++
  "CREATE TABLE IF NOT EXISTS transactions (\n" ++
  "    id         BIGSERIAL PRIMARY KEY,\n" ++
  "    account_id BIGINT NULL REFERENCES accounts (id),\n" ++
  "    amount     NUMERIC(20, 4) NOT NULL CHECK (amount > 0),\n" ++
  "    type       transaction_type NOT NULL,\n" ++
  "    created_at TIMESTAMPTZ NOT NULL DEFAULT NOW()\n" ++
  ");\n" ++
  "\n" ++
  "CREATE INDEX IF NOT EXISTS idx_transactions_account_id\n" ++
  "    ON transactions (account_id, id);\n"

def all : List Migration := [⟨20240101000000, "create ledger", createLedgerSql⟩]

end Migration

end Passbook

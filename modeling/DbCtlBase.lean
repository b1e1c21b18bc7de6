import DbCtlBase.Datum
import DbCtlBase.Schema
import DbCtlBase.Match
import DbCtlBase.Context
import DbCtlBase.Effect
import DbCtlBase.Parse
import DbCtlBase.Row
import DbCtlBase.Condition
import DbCtlBase.Read
import DbCtlBase.Write
import DbCtlBase.Prepass
import DbCtlBase.Show
import DbCtlBase.Command
import DbCtlBase.Session
import DbCtlBase.Declare
import DbCtlBase.Usage
import DbCtlBase.Options
import DbCtlBase.ReadOnly
import DbCtlBase.Stream
import DbCtlBase.Uuid
import DbCtlBase.Data
import DbCtlBase.Bounds
import DbCtlBase.Ids
import DbCtlBase.Txn
import DbCtlBase.Frame
import DbCtlBase.Create
import DbCtlBase.CommandLine

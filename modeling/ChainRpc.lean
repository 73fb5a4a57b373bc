import ChainRpc.Client.Config
import ChainRpc.Client.Machine
import ChainRpc.Proofs.Chain.Records
import ChainRpc.Proofs.Client.Attempt
import ChainRpc.Proofs.Client.Closing
import ChainRpc.Proofs.Client.Correlation
import ChainRpc.Proofs.Client.Events
import ChainRpc.Proofs.Client.Exchange
import ChainRpc.Proofs.Client.Namesakes
import ChainRpc.Proofs.Client.Naming
import ChainRpc.Proofs.Client.Numbers
import ChainRpc.Proofs.Client.Openings
import ChainRpc.Proofs.Client.Pings
import ChainRpc.Proofs.Client.Reconnect
import ChainRpc.Proofs.Client.Wire
import ChainRpc.Proofs.Hash.Order
import ChainRpc.Proofs.Link.Release
import ChainRpc.Proofs.Rpc.Classification
import ChainRpc.Proofs.Rpc.ErrorObjects
import ChainRpc.Proofs.Rpc.Hexadecimal
import ChainRpc.Proofs.Rpc.Requests
import ChainRpc.Proofs.Scale.ByteLists
import ChainRpc.Proofs.Scale.Canonical
import ChainRpc.Proofs.Scale.Delimited
import ChainRpc.Proofs.Scale.Era
import ChainRpc.Proofs.Scale.ListBounds
import ChainRpc.Proofs.Scale.Parts
import ChainRpc.Rpc.Catalog
import ChainRpc.Scale.Label
